import ScriptHost.ProtoScript.Builtin.Substitution

/-!
# `String`
-/

namespace ScriptHost.ProtoScript.Builtin.Texts

open Text (Units)

open Script

/-- `this` as text; there has to be a value. -/
def subject (this : Val) : Script Units := do
  if this.isNullish then throwType "null or undefined are forbidden"
  toUnits this

/-- The text that `this` is or wraps. -/
def ownText (this : Val) : Script Val := do
  match this with
  | .str _ => return this
  | .obj id => match (← obj id).kind with
    | .wrapper (.str u) => return .str u
    | _ => throwType "not a string"
  | _ => throwType "not a string"

/-- A position within a text. -/
def clampArg (v : Val) (n default0 : Nat) : Script Nat := do
  if v.isUndefined then return default0
  let x ← toWhole v
  return if x ≤ 0 then 0 else if x ≥ n.toFloat then n else x.toUInt64.toNat

/-- Fails for a regular expression. -/
def refuseRegexp (v : Val) : Script Unit := do
  match v with
  | .obj id =>
    let s ← get v WellKnown.matchOne.key
    let kind := (← obj id).kind
    let isRegexp := if s.isUndefined then (match kind with
        | .regexp _ _ => true
        | _ => false)
      else s.truthy
    if isRegexp then throwType "regexp not supported"
  | _ => return

def mapCodes (f : List Nat → List Nat) (u : Units) : Units := Units.ofCodes (f u.codes)

/-- Text repeated. -/
def repeated (u : Units) : Nat → Units → Units
  | 0, acc => acc
  | n + 1, acc => repeated u n (acc ++ u)

/-- Text extended on one side to a length. -/
def pad (this : Val) (args : Array Val) (atStart : Bool) : Script Val := do
  let u ← subject this
  let n ← toLength (arg args 0)
  if n ≤ u.size then return .str u
  let filler ← if (arg args 1).isUndefined then pure #[0x20] else toUnits (arg args 1)
  if filler.size == 0 then return .str u
  if n > 1073741823 then throwRange "invalid string length"
  let missing := n - u.size
  let fill := (repeated filler (missing / filler.size + 1) #[]).extract 0 missing
  return .str (if atStart then fill ++ u else u ++ fill)

/-- Calls the method of an argument that a symbol names, if there is one. -/
def delegate (v : Val) (w : WellKnown) (args : Array Val) (otherwise : Script Val) :
    Script Val := do
  if v.isNullish then otherwise
  else match ← getMethod? v w.key with
    | some f => call f v args
    | none => otherwise

/-- What a replacement makes of a match. -/
def replacement (u pattern : Units) (at0 : Nat) (f : Val) : Script Units := do
  if (← MonadState.get).isCallable f then
    toUnits (← call f .undefined #[.str pattern, .ofNat at0, .str u])
  else
    return Substitution.expand ⟨u, at0, at0 + pattern.size, #[], none⟩ (← toUnits f)

/-- Replaces the first or all occurrences of a text. -/
def replacePlain (this : Val) (args : Array Val) (all : Bool) : Script Val := do
  let u ← subject this
  let pattern ← toUnits (arg args 0)
  let f := arg args 1
  let f ← if (← MonadState.get).isCallable f then pure f else do pure (.str (← toUnits f))
  let step := max pattern.size 1
  let mut out : Units := #[]
  let mut last := 0
  let mut next := u.find? pattern 0
  for _ in [0:u.size + 2] do
    match next with
    | none => break
    | some i =>
      out := out ++ u.slice last i ++ (← replacement u pattern i f)
      last := i + pattern.size
      next := if all && i + step ≤ u.size then u.find? pattern (i + step) else none
  return .str (out ++ u.slice last u.size)

/-- Splits at every occurrence of a text. -/
def splitPlain (this : Val) (args : Array Val) : Script Val := do
  let u ← subject this
  let limit ← if (arg args 1).isUndefined then pure 4294967295
    else do pure (← toWord (arg args 1)).toNat
  let separator ← toUnits (arg args 0)
  if limit == 0 then newArray #[]
  else if (arg args 0).isUndefined then newArray #[.str u]
  else if separator.size == 0 then
    newArray (((u.toList.take limit).map fun c => Val.str #[c]).toArray)
  else
    let mut out := #[]
    let mut last := 0
    for _ in [0:u.size + 1] do
      match u.find? separator last with
      | none => break
      | some i =>
        out := out.push (.str (u.slice last i))
        last := i + separator.size
    out := out.push (.str (u.slice last u.size))
    newArray (out.extract 0 limit)

/-- Makes a regular expression of a value and calls a method of it. -/
def viaRegexp (this : Val) (args : Array Val) (w : WellKnown) (flags : String) : Script Val := do
  let u ← subject this
  let c ← getName Intrinsic.regexpProto.val "constructor"
  let pattern := arg args 0
  let source ← if pattern.isUndefined then pure Val.undefined else do pure (.str (← toUnits pattern))
  let r ← construct c #[source, .ofString flags] c
  call (← get r w.key) r #[.str u]

/-- Fails unless a regular expression is global. -/
def requireGlobal (v : Val) : Script Unit := do
  match v with
  | .obj id => match (← obj id).kind with
    | .regexp _ _ =>
      let flags ← toText (← getName v "flags")
      if !flags.contains 'g' then throwType ("regexp must have the 'g' flag")
    | _ => return
  | _ => return

/-- Text between tags, with an attribute. -/
def html (name tag : String) (property : Option String) : Member :=
  .method name (if property.isSome then 1 else 0) fun this args => do
    let u ← subject this
    let head ← match property with
      | none => pure ("<" ++ tag ++ ">")
      | some a =>
        let v := (← toText (arg args 0)).replace "\"" "&quot;"
        pure ("<" ++ tag ++ " " ++ a ++ "=\"" ++ v ++ "\">")
    return .str (Units.ofString head ++ u ++ Units.ofString ("</" ++ tag ++ ">"))

/-- The part between two positions. -/
def slice (this : Val) (args : Array Val) : Script Val := do
  let u ← subject this
  let start ← relativeArg (arg args 0) u.size 0
  let stop ← relativeArg (arg args 1) u.size u.size
  return .str (u.slice start stop)

/-- Whether a text stands at a position. -/
def standsAt (this : Val) (args : Array Val) (atEnd : Bool) : Script Val := do
  let u ← subject this
  refuseRegexp (arg args 0)
  let part ← toUnits (arg args 0)
  if atEnd then
    let stop ← clampArg (arg args 1) u.size u.size
    return .bool (part.size ≤ stop && u.matchesAt part (stop - part.size))
  else
    let start ← clampArg (arg args 1) u.size 0
    return .bool (u.matchesAt part start)

def spec : ClassSpec where
  proto := .stringProto
  constructor := ⟨"String", 1, fun _ args target => do
    let v ← if args.size == 0 then pure (Val.str #[])
      else match arg args 0, target with
        | .sym id, .undefined =>
          pure (.ofString ("Symbol(" ++ (← MonadState.get).keyText (.symbol id) ++ ")"))
        | v, _ => do pure (.str (← toUnits v))
    if target.isUndefined then return v
    allocVal { proto := some (← protoOf target .stringProto), kind := .wrapper v }⟩
  statics := [
    .method "fromCharCode" 1 fun _ args => do
      let mut out : Units := #[]
      for a in args do out := out.push (← toWord a).toUInt16
      return .str out,
    .method "fromCodePoint" 1 fun _ args => do
      let mut out : Units := #[]
      for a in args do
        let x ← toNumber a
        if x < 0 || x > 1114111 || x.floor != x then throwRange "invalid code point"
        out := out.pushCode x.toUInt64.toNat
      return .str out,
    .method "raw" 1 fun _ args => do
      let raw ← getName (arg args 0) "raw"
      let n ← toLength (← getName raw "length")
      let mut out : Units := #[]
      for i in [0:n] do
        out := out ++ (← toUnits (← get raw (.ofNat i)))
        if i + 1 < n && i + 1 < args.size then out := out ++ (← toUnits (arg args (i + 1)))
      return .str out]
  methods := [
    .method "charCodeAt" 1 fun this args => do
      let u ← subject this
      let x ← toWhole (arg args 0)
      match floatIndex? x with
      | some i => match u[i]? with
        | some c => return .ofNat c.toNat
        | none => return .num (0.0 / 0.0)
      | none => return .num (0.0 / 0.0),
    .method "charAt" 1 fun this args => do
      let u ← subject this
      let x ← toWhole (arg args 0)
      match (floatIndex? x).bind fun i => u[i]? with
      | some c => return .str #[c]
      | none => return .str #[],
    .method "at" 1 fun this args => do
      let u ← subject this
      let x ← toWhole (arg args 0)
      let y := if x < 0 then u.size.toFloat + x else x
      match (floatIndex? y).bind fun i => u[i]? with
      | some c => return .str #[c]
      | none => return .undefined,
    .method "concat" 1 fun this args => do
      let mut out ← subject this
      for a in args do out := out ++ (← toUnits a)
      return .str out,
    .method "codePointAt" 1 fun this args => do
      let u ← subject this
      let x ← toWhole (arg args 0)
      match floatIndex? x with
      | some i => if i < u.size then return .ofNat (u.codeAt i).1 else return .undefined
      | none => return .undefined,
    .method "isWellFormed" 0 fun this _ => do return .bool (← subject this).strayOffset?.isNone,
    .method "toWellFormed" 0 fun this _ => do return .ofString (← subject this).toString,
    .method "indexOf" 1 fun this args => do
      let u ← subject this
      let part ← toUnits (arg args 0)
      let start ← clampArg (arg args 1) u.size 0
      match u.find? part start with
      | some i => return .ofNat i
      | none => return .num (-1),
    .method "lastIndexOf" 1 fun this args => do
      let u ← subject this
      let part ← toUnits (arg args 0)
      let x ← toNumber (arg args 1)
      let start := if x.isNaN || x ≥ u.size.toFloat then u.size
        else if x < 0 then 0 else x.toUInt64.toNat
      match u.findLast? part start with
      | some i => return .ofNat i
      | none => return .num (-1),
    .method "includes" 1 fun this args => do
      let u ← subject this
      refuseRegexp (arg args 0)
      let part ← toUnits (arg args 0)
      let start ← clampArg (arg args 1) u.size 0
      return .bool (u.find? part start).isSome,
    .method "endsWith" 1 fun this args => standsAt this args true,
    .method "startsWith" 1 fun this args => standsAt this args false,
    .method "match" 1 fun this args => do
      if this.isNullish then throwType "cannot convert to object"
      delegate (arg args 0) .matchOne #[this] (viaRegexp this args .matchOne ""),
    .method "matchAll" 1 fun this args => do
      if this.isNullish then throwType "cannot convert to object"
      requireGlobal (arg args 0)
      delegate (arg args 0) .matchAll #[this] (viaRegexp this args .matchAll "g"),
    .method "search" 1 fun this args => do
      if this.isNullish then throwType "cannot convert to object"
      delegate (arg args 0) .search #[this] (viaRegexp this args .search ""),
    .method "split" 2 fun this args => do
      if this.isNullish then throwType "cannot convert to object"
      delegate (arg args 0) .split #[this, arg args 1] (splitPlain this args),
    .method "substring" 2 fun this args => do
      let u ← subject this
      let a ← clampArg (arg args 0) u.size 0
      let b ← clampArg (arg args 1) u.size u.size
      return .str (u.slice (min a b) (max a b)),
    .method "substr" 2 fun this args => do
      let u ← subject this
      let start ← relativeArg (arg args 0) u.size 0
      let count ← clampArg (arg args 1) (u.size - start) (u.size - start)
      return .str (u.slice start (start + count)),
    .method "slice" 2 slice,
    .method "repeat" 1 fun this args => do
      let u ← subject this
      let x ← toWhole (arg args 0)
      if x < 0 || x > 2147483647 then throwRange "invalid repeat count"
      let n := x.toUInt64.toNat
      if n * u.size > 1073741823 then throwRange "invalid string length"
      return .str (repeated u n #[]),
    .method "replace" 2 fun this args => do
      if this.isNullish then throwType "cannot convert to object"
      delegate (arg args 0) .replace #[this, arg args 1] (replacePlain this args false),
    .method "replaceAll" 2 fun this args => do
      if this.isNullish then throwType "cannot convert to object"
      requireGlobal (arg args 0)
      delegate (arg args 0) .replace #[this, arg args 1] (replacePlain this args true),
    .method "padEnd" 1 fun this args => pad this args false,
    .method "padStart" 1 fun this args => pad this args true,
    .method "trim" 0 fun this _ => do return .str (trimUnitsEnd (trimUnitsStart (← subject this))),
    .method "trimEnd" 0 fun this _ => do return .str (trimUnitsEnd (← subject this)),
    .method "trimStart" 0 fun this _ => do return .str (trimUnitsStart (← subject this)),
    .method "trimRight" 0 fun this _ => do return .str (trimUnitsEnd (← subject this)),
    .method "trimLeft" 0 fun this _ => do return .str (trimUnitsStart (← subject this)),
    .method "toString" 0 fun this _ => ownText this,
    .method "valueOf" 0 fun this _ => ownText this,
    .method "normalize" 0 fun this _ => do return .str (← subject this),
    .method "localeCompare" 1 fun this args => do
      let u ← subject this
      let v ← toUnits (arg args 0)
      return .num (if u.less v then -1 else if v.less u then 1 else 0),
    .method "toLowerCase" 0 fun this _ => do
      return .str (mapCodes Text.Case.lowerAll (← subject this)),
    .method "toUpperCase" 0 fun this _ => do
      return .str (mapCodes Text.Case.upperAll (← subject this)),
    .method "toLocaleLowerCase" 0 fun this _ => do
      return .str (mapCodes Text.Case.lowerAll (← subject this)),
    .method "toLocaleUpperCase" 0 fun this _ => do
      return .str (mapCodes Text.Case.upperAll (← subject this)),
    .symbolMethod .iterator 0 fun this _ => do
      let u ← subject this
      allocVal { proto := some Intrinsic.stringIteratorProto.id, kind := .stringIterator u 0 },
    html "anchor" "a" (some "name"),
    html "big" "big" none,
    html "blink" "blink" none,
    html "bold" "b" none,
    html "fixed" "tt" none,
    html "fontcolor" "font" (some "color"),
    html "fontsize" "font" (some "size"),
    html "italics" "i" none,
    html "link" "a" (some "href"),
    html "small" "small" none,
    html "strike" "strike" none,
    html "sub" "sub" none,
    html "sup" "sup" none]

end ScriptHost.ProtoScript.Builtin.Texts
