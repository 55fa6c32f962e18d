import ScriptHost.ProtoScript.Variable
import ScriptHost.ProtoScript.Marshal

/-!
# Calls

A call of a script function begins a new activation, whose caller waits; a call of any other function
is answered at once.

* `Script.pushFrame`, `popFrame` — the activations.
* `Script.functionFrame` — the activation of a script function, with its variables.
* `Script.begin` — a call or the making of an object.
-/

namespace ScriptHost.ProtoScript

/-- The greatest number of activations. -/
def depthLimit : Nat := 640

namespace Script

/-- Begins an activation. -/
def pushFrame (frame : Frame) : Script Unit := do
  if (← MonadState.get).depth ≥ depthLimit then throwKind .internalError "stack overflow"
  modify fun m => { m with
    callers := ⟨m.frame, m.natives⟩ :: m.callers
    depth := m.depth + 1
    frame := frame
    natives := [] }

/-- Ends an activation. -/
def popFrame : Script Unit := modify fun m => match m.callers with
  | [] => m
  | a :: rest => { m with
      frame := a.frame, natives := a.natives, callers := rest, depth := m.depth - 1 }

/-- The variables of a function that is called with arguments. -/
def callBindings (code : Code) (callee : Val) (args : Array Val) : Array Binding :=
  let has (bs : Array Binding) (name : String) : Bool := bs.any fun b => b.name == name
  let (bs, _) := code.params.foldl (fun (bs, i) p => match p with
    | none => (bs, i + 1)
    | some name =>
      let v := args.getD i .undefined
      match bs.findIdx? fun (b : Binding) => b.name == name with
      | some j => (bs.modify j fun b => { b with value := v }, i + 1)
      | none => (bs.push ⟨name, v, .variable⟩, i + 1)) ((#[] : Array Binding), 0)
  let bs := code.vars.foldl (fun bs name =>
    if has bs name then bs else bs.push ⟨name, .undefined, .variable⟩) bs
  let bs := code.lexicals.foldl (fun bs v =>
    bs.push ⟨v.name, .empty, if v.constant then .constant else .variable⟩) bs
  match code.selfName with
  | some name =>
    if has bs name || code.functions.any (·.1 == name) then bs
    else bs.push ⟨name, callee, .ownName⟩
  | none => bs

/-- Makes the object of a function's arguments. -/
def makeArguments (code : Code) (callee : Val) (scope : Nat) (args : Array Val) : Script Val := do
  let shared := !code.strict && code.simpleParams
  let names := code.params.toArray
  let mapped := if shared then
      names.mapIdx fun i p => match p with
        | some name =>
          if (names.extract (i + 1) names.size).contains (some name) then none else some name
        | none => none
    else #[]
  let id ← alloc {
    proto := some Intrinsic.objectProto.id
    kind := .arguments scope (mapped.extract 0 args.size)
    elements := args }
  defineHidden id "length" (.ofNat args.size)
  define id WellKnown.iterator.key (.hidden Intrinsic.arrayValues.val)
  if code.strict then
    let f := Intrinsic.throwTypeError.val
    define id (.name "callee") ⟨.accessor f f, false, false⟩
  else defineHidden id "callee" callee
  return .obj id

/-- The activation of a function, with its variables. -/
def functionFrame (callee : Nat) (c : Closure) (code : Code) (this : Val) (args : Array Val)
    (target : Val) (purpose : Purpose) (entry : Bool) : Script Frame := do
  let f := Val.obj callee
  let kind := if code.form == .arrow then ScopeKind.body else .function this f target
  let scope ← newScope { parent := c.scope, kind, bindings := callBindings code f args }
  if code.usesArguments && code.form != .arrow
      && !code.params.contains (some "arguments")
      && !(code.lexicals.any fun v => v.name == "arguments") then
    setFunction scope "arguments" (← makeArguments code f scope args)
  for (name, id) in code.functions do
    setFunction scope name (← makeClosure id scope)
  return { code, scope, callee := f, args, purpose, entry }

/-- `this` as a function sees it. -/
def adjustThis (code : Code) (this : Val) : Script Val :=
  if code.strict || code.form == .arrow then return this
  else match this with
    | .obj _ => return this
    | .undefined | .null | .empty => return Intrinsic.global.val
    | _ => return .obj (← toObject this)

/-- The prototype of the objects that a class makes. -/
def protoOf (target : Val) (default0 : Intrinsic) : Script Nat := do
  match target with
  | .obj _ => match ← getName target "prototype" with
    | .obj p => return p
    | _ => return default0.id
  | _ => return default0.id

/-- Runs a function of the machine, which stands on the stack meanwhile. -/
def callNative (f : Nat) (index : Nat) (this : Val) (args : Array Val) (target : Val) :
    Script Val := do
  let natives := (← MonadState.get).natives
  modify fun m => { m with natives := .obj f :: natives }
  try
    let r ← fun calls => calls.native index this args target
    modify fun m => { m with natives }
    return r
  catch e =>
    modify fun m => { m with natives }
    throw e

/-- Begins a call of a function, or the making of an object if a class is asked for.  The answer is
`none` if an activation was begun whose end will give the value. -/
def begin (f this : Val) (args : Array Val) (target : Val) (entry : Bool) : Nat →
    Script (Option Val)
  | 0 => throwKind .internalError "stack overflow"
  | fuel + 1 => do
    let .obj id := f | throwType "not a function"
    let m ← MonadState.get
    let constructing := !target.isUndefined
    if constructing && !m.isConstructor f then
      throwType (if m.isCallable f then "not a constructor" else "not a function")
    match (m.obj id).kind with
    | .function c =>
      let code := m.code c
      if constructing then
        let this ← if code.form == .derivedConstructor then pure Val.empty
          else do pure (Val.obj (← alloc { proto := some (← protoOf target .objectProto) }))
        if (← MonadState.get).depth ≥ depthLimit then throwKind .internalError "stack overflow"
        pushFrame (← functionFrame id c code this args target .construct entry)
        return none
      else
        if code.form == .classConstructor || code.form == .derivedConstructor then
          throwType "class constructors must be invoked with 'new'"
        if code.kind != .normal && !entry then
          return some (← call f this args)
        if m.depth ≥ depthLimit then throwKind .internalError "stack overflow"
        let this ← adjustThis code this
        let purpose := if code.kind == .normal then Purpose.call else .generate
        pushFrame (← functionFrame id c code this args .undefined purpose entry)
        return none
    | .native index => return some (← callNative id index this args target)
    | .host h => return some (← callHost h args)
    | .bound inner boundThis boundArgs =>
      let target := if constructing && strictlyEqual target f then inner else target
      begin inner boundThis (boundArgs ++ args) target entry fuel
    | _ => throwType "not a function"

end Script

end ScriptHost.ProtoScript
