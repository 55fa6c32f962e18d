import ScriptHost.ProtoScript.Builtin.Member

/-!
# `Object` and `Function`
-/

namespace ScriptHost.ProtoScript.Builtin.Object

open Text (Units)

open Script

/-- The object argument of a function. -/
def objectArg (v : Val) : Script Nat :=
  match v with
  | .obj id => return id
  | _ => throwType "not an object"

/-- A descriptor as an object of the script. -/
def fromProperty (p : Property) : Script Val := do
  let id ← newObject
  match p.slot with
  | .value v w =>
    define id (.name "value") (.plain v)
    define id (.name "writable") (.plain (.bool w))
  | .accessor g s =>
    define id (.name "get") (.plain g)
    define id (.name "set") (.plain s)
  define id (.name "enumerable") (.plain (.bool p.enumerable))
  define id (.name "configurable") (.plain (.bool p.configurable))
  return .obj id

/-- Reads a descriptor. -/
def toDescriptor (v : Val) : Script Descriptor := do
  let id ← objectArg v
  let field (name : String) : Script (Option Val) := do
    if ← has id (.name name) then return some (← getName v name) else return none
  let truth (name : String) : Script (Option Bool) := return (← field name).map Val.truthy
  let enumerable ← truth "enumerable"
  let configurable ← truth "configurable"
  let value ← field "value"
  let writable ← truth "writable"
  let getter ← field "get"
  let setter ← field "set"
  for f in [getter, setter] do
    match f with
    | some g =>
      if !g.isUndefined && !(← MonadState.get).isCallable g then
        throwType "invalid getter"
    | none => pure ()
  if (getter.isSome || setter.isSome) && (value.isSome || writable.isSome) then
    throwType "cannot have setter/getter and value or writable"
  return { value, writable, getter, setter, enumerable, configurable }

/-- Defines the properties that an object describes. -/
def defineAll (id : Nat) (descriptions : Val) : Script Unit := do
  let source ← toObject descriptions
  for k in (← MonadState.get).ownKeys source do
    match (← MonadState.get).ownProperty? source k with
    | some p =>
      if p.enumerable then
        let d ← toDescriptor (← get (.obj source) k)
        let _ ← defineOwn id k d
    | none => pure ()

/-- Makes all properties of an object unchangeable, in whole or in part. -/
def restrict (id : Nat) (frozen : Bool) : Script Unit := do
  updateObj id fun o =>
    let o := { o.spill with extensible := false }
    let kind := match o.kind with
      | .array n w => Kind.array n (w && !frozen)
      | .arguments scope _ => .arguments scope #[]
      | k => k
    { o with
      kind
      props := o.props.map fun (k, p) => match p.slot with
        | .value v w => (k, { p with slot := .value v (w && !frozen), configurable := false })
        | .accessor _ _ => (k, { p with configurable := false }) }

/-- Whether all properties of an object are unchangeable, in whole or in part. -/
def isRestricted (id : Nat) (frozen : Bool) : Script Bool := do
  let m ← MonadState.get
  if (m.obj id).extensible then return false
  return (m.ownKeys id).all fun k => match m.ownProperty? id k with
    | some p => !p.configurable && match p.slot with
      | .value _ w => !(frozen && w)
      | .accessor _ _ => true
    | none => true

/-- The text that tells the class of a value. -/
def classText (this : Val) : Script Val := do
  match this with
  | .undefined | .empty => return .ofString "[object Undefined]"
  | .null => return .ofString "[object Null]"
  | _ =>
    let id ← toObject this
    let m ← MonadState.get
    let plain := match (m.obj id).kind with
      | .array _ _ => "Array"
      | .function _ | .native _ | .host _ | .bound _ _ _ => "Function"
      | .error => "Error"
      | .wrapper (.bool _) => "Boolean"
      | .wrapper (.num _) => "Number"
      | .wrapper (.str _) => "String"
      | .date _ => "Date"
      | .regexp _ _ => "RegExp"
      | .arguments _ _ => "Arguments"
      | _ => "Object"
    match ← get (.obj id) WellKnown.toStringTag.key with
    | .str u => return .ofString ("[object " ++ u.toString ++ "]")
    | _ => return .ofString ("[object " ++ plain ++ "]")

/-- Sets the prototype of an object; whether that was possible. -/
def setProto (id : Nat) (proto : Option Nat) : Script Bool := do
  let m ← MonadState.get
  let o := m.obj id
  if o.proto == proto then return true
  if !o.extensible then
    throwType "object is not extensible"
  match proto with
  | some p =>
    if (m.findUp (fun i => if i == id then some () else none) (m.heap.size + 1) p).isSome then
      throwType "circular prototype chain"
  | none => pure ()
  updateObj id fun o => { o with proto }
  return true

/-- A prototype as a value. -/
def protoVal (o : Obj) : Val := match o.proto with
  | some p => .obj p
  | none => .null

/-- Keys, values or entries of an object. -/
def listProperties (v : Val) (part : Part) : Script Val := do
  let id ← toObject v
  let names ← ownNames id
  match part with
  | .keys => arrayOfTexts names
  | _ =>
    let mut out := #[]
    for name in names do
      let w ← getName (.obj id) name
      if part == .values then out := out.push w
      else out := out.push (← newArray #[.ofString name, w])
    newArray out

/-- Adds a getter or setter by the older methods of objects. -/
def defineHalf (this k f : Val) (isGetter : Bool) : Script Val := do
  let id ← toObject this
  requireFunction f
  let key ← toKey k
  let d : Descriptor := { enumerable := some true, configurable := some true }
  let d := if isGetter then { d with getter := some f } else { d with setter := some f }
  let _ ← defineOwn id key d
  return .undefined

/-- Looks up a getter or setter by the older methods of objects. -/
def lookupHalf (this k : Val) (isGetter : Bool) : Script Val := do
  let id ← toObject this
  let key ← toKey k
  match (← MonadState.get).property? id key with
  | some ⟨.accessor g s, _, _⟩ => return if isGetter then g else s
  | _ => return .undefined

def spec : ClassSpec where
  proto := .objectProto
  constructor := ⟨"Object", 1, fun _ args target => do
    if ← forSubclass target then
      return .obj (← alloc { proto := some (← protoOf target .objectProto) })
    let v := arg args 0
    if v.isNullish then return .obj (← newObject) else return .obj (← toObject v)⟩
  statics := [
    .method "create" 2 fun _ args => do
      let proto ← match arg args 0 with
        | .obj p => pure (some p)
        | .null => pure none
        | _ => throwType "not a prototype"
      let id ← alloc { proto }
      if !(arg args 1).isUndefined then defineAll id (arg args 1)
      return .obj id,
    .method "getPrototypeOf" 1 fun _ args => do return protoVal (← obj (← toObject (arg args 0))),
    .method "setPrototypeOf" 2 fun _ args => do
      let v := arg args 0
      if v.isNullish then throwType "not an object"
      let proto ← match arg args 1 with
        | .obj p => pure (some p)
        | .null => pure none
        | _ => throwType "not an object"
      match v with
      | .obj id => let _ ← setProto id proto
      | _ => pure ()
      return v,
    .method "defineProperty" 3 fun _ args => do
      let id ← objectArg (arg args 0)
      let k ← toKey (arg args 1)
      let d ← toDescriptor (arg args 2)
      let _ ← defineOwn id k d
      return arg args 0,
    .method "defineProperties" 2 fun _ args => do
      defineAll (← objectArg (arg args 0)) (arg args 1)
      return arg args 0,
    .method "getOwnPropertyNames" 1 fun _ args => do
      let id ← toObject (arg args 0)
      newArray (((← MonadState.get).ownKeys id).filterMap fun k => match k with
        | .name s => some (.ofString s)
        | .symbol _ => none),
    .method "getOwnPropertySymbols" 1 fun _ args => do
      let id ← toObject (arg args 0)
      newArray (((← MonadState.get).ownKeys id).filterMap fun k => match k with
        | .name _ => none
        | .symbol s => some (.sym s)),
    .method "keys" 1 fun _ args => listProperties (arg args 0) .keys,
    .method "values" 1 fun _ args => listProperties (arg args 0) .values,
    .method "entries" 1 fun _ args => listProperties (arg args 0) .entries,
    .method "isExtensible" 1 fun _ args => do
      match arg args 0 with
      | .obj id => return .bool (← obj id).extensible
      | _ => return .bool false,
    .method "preventExtensions" 1 fun _ args => do
      match arg args 0 with
      | .obj id => updateObj id fun o => { o with extensible := false }
      | _ => pure ()
      return arg args 0,
    .method "getOwnPropertyDescriptor" 2 fun _ args => do
      let id ← toObject (arg args 0)
      let k ← toKey (arg args 1)
      match (← MonadState.get).ownProperty? id k with
      | some p => fromProperty p
      | none => return .undefined,
    .method "getOwnPropertyDescriptors" 1 fun _ args => do
      let id ← toObject (arg args 0)
      let out ← newObject
      for k in (← MonadState.get).ownKeys id do
        match (← MonadState.get).ownProperty? id k with
        | some p => define out k (.plain (← fromProperty p))
        | none => pure ()
      return .obj out,
    .method "is" 2 fun _ args => return .bool (sameValue (arg args 0) (arg args 1)),
    .method "assign" 2 fun _ args => do
      let target ← toObject (arg args 0)
      for source in args.extract 1 args.size do
        if !source.isNullish then
          let id ← toObject source
          for k in (← MonadState.get).ownKeys id do
            match (← MonadState.get).ownProperty? id k with
            | some p => if p.enumerable then put (.obj target) k (← get (.obj id) k)
            | none => pure ()
      return .obj target,
    .method "seal" 1 fun _ args => do
      match arg args 0 with
      | .obj id => restrict id false
      | _ => pure ()
      return arg args 0,
    .method "freeze" 1 fun _ args => do
      match arg args 0 with
      | .obj id => restrict id true
      | _ => pure ()
      return arg args 0,
    .method "isSealed" 1 fun _ args => do
      match arg args 0 with
      | .obj id => return .bool (← isRestricted id false)
      | _ => return .bool true,
    .method "isFrozen" 1 fun _ args => do
      match arg args 0 with
      | .obj id => return .bool (← isRestricted id true)
      | _ => return .bool true,
    .method "fromEntries" 1 fun _ args => do
      let out ← newObject
      forEach (arg args 0) fun entry => do
        if !entry.isObject then throwType "not an object"
        let k ← get entry (.ofNat 0)
        let v ← get entry (.ofNat 1)
        define out (← toKey k) (.plain v)
      return .obj out,
    .method "hasOwn" 2 fun _ args => do
      let id ← toObject (arg args 0)
      let k ← toKey (arg args 1)
      return .bool ((← MonadState.get).ownProperty? id k).isSome]
  methods := [
    .method "toString" 0 fun this _ => classText this,
    .method "toLocaleString" 0 fun this _ => invoke this "toString" #[],
    .method "valueOf" 0 fun this _ => do return .obj (← toObject this),
    .method "hasOwnProperty" 1 fun this args => do
      let k ← toKey (arg args 0)
      let id ← toObject this
      return .bool ((← MonadState.get).ownProperty? id k).isSome,
    .method "isPrototypeOf" 1 fun this args => do
      match arg args 0 with
      | .obj id =>
        let p ← toObject this
        let m ← MonadState.get
        let found := ((m.obj id).proto).bind fun first =>
          m.findUp (fun i => if i == p then some () else none) (m.heap.size + 1) first
        return .bool found.isSome
      | _ => return .bool false,
    .method "propertyIsEnumerable" 1 fun this args => do
      let id ← toObject this
      let k ← toKey (arg args 0)
      return .bool (((← MonadState.get).ownProperty? id k).map (·.enumerable) |>.getD false),
    .getter "__proto__" fun this => do return protoVal (← obj (← toObject this)),
    .setter "__proto__" fun this v => do
      if this.isNullish then throwType "not an object"
      match this, v with
      | .obj id, .obj p => let _ ← setProto id (some p)
      | .obj id, .null => let _ ← setProto id none
      | _, _ => pure ()
      return .undefined,
    .method "__defineGetter__" 2 fun this args => defineHalf this (arg args 0) (arg args 1) true,
    .method "__defineSetter__" 2 fun this args => defineHalf this (arg args 0) (arg args 1) false,
    .method "__lookupGetter__" 1 fun this args => lookupHalf this (arg args 0) true,
    .method "__lookupSetter__" 1 fun this args => lookupHalf this (arg args 0) false]

/-- The text of a function. -/
def functionSource (this : Val) : Script Val := do
  let m ← MonadState.get
  if !m.isCallable this then throwType "not a function"
  let .obj id := this | throwType "not a function"
  match (m.obj id).kind with
  | .function c => return .str (m.code c).source
  | _ => return .ofString ("function " ++ m.functionName this
      ++ "() \x7b\n    [native code]\n\x7d")

/-- Makes a function of texts, the last of which is the body. -/
def makeFunction (kind : FunctionKind) (args : Array Val) : Script Val := do
  let mut texts : Array String := #[]
  for a in args do texts := texts.push (← toText a)
  let body := texts.back?.getD ""
  let params := ",".intercalate (texts.pop).toList
  fun calls => calls.makeFunction kind params body

/-- Binds a function to `this` and arguments. -/
def bind (this : Val) (args : Array Val) : Script Val := do
  requireFunction this
  let .obj target := this | throwType "not a function"
  let m ← MonadState.get
  let bound := args.extract 1 args.size
  let length ← match m.ownProperty? target (.name "length") with
    | some _ => match ← getName this "length" with
      | .num x =>
        let n := wholePart x - bound.size.toFloat
        pure (if n > 0 then n else 0)
      | _ => pure 0
    | none => pure 0
  let name ← match ← getName this "name" with
    | .str u => pure u.toString
    | _ => pure ""
  let id ← alloc { proto := (← obj target).proto, kind := .bound this (arg args 0) bound }
  define id (.name "length") ⟨.value (.num length) false, false, true⟩
  define id (.name "name") ⟨.value (.ofString ("bound " ++ name)) false, false, true⟩
  return .obj id

def functionSpec : ClassSpec where
  proto := .functionProto
  constructor := ⟨"Function", 1, fun _ args _ => makeFunction .normal args⟩
  methods := [
    .method "call" 1 fun this args => do
      requireFunction this
      call this (arg args 0) (args.extract 1 args.size),
    .method "apply" 2 fun this args => do
      requireFunction this
      let list := arg args 1
      if list.isNullish then call this (arg args 0) #[]
      else call this (arg args 0) (← listOf list),
    .method "bind" 1 bind,
    .method "toString" 0 fun this _ => functionSource this,
    .symbolMethod .hasInstance 1 fun this args => do
      if !(← MonadState.get).isCallable this then return .bool false
      match this with
      | .obj id => match (← obj id).kind with
        | .bound inner _ _ => return .bool (← isInstance (arg args 0) inner 64)
        | _ => return .bool (← isMadeBy (arg args 0) this)
      | _ => return .bool false]

end ScriptHost.ProtoScript.Builtin.Object
