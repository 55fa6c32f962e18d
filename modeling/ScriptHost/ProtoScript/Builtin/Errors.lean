import ScriptHost.ProtoScript.Builtin.Member

/-!
# The classes of errors, and `Symbol`
-/

namespace ScriptHost.ProtoScript.Builtin.Errors

open Text (Units)

open Script

/-- Makes an error; the stack begins below the constructor. -/
def make (kind : ErrorKind) (args : Array Val) (target : Val) : Script Val := do
  let aggregate := kind == .aggregateError
  let message := arg args (if aggregate then 1 else 0)
  let options := arg args (if aggregate then 2 else 1)
  let id ← alloc { proto := some (← protoOf target kind.proto), kind := .error }
  if !message.isUndefined then defineHidden id "message" (.str (← toUnits message))
  match options with
  | .obj o =>
    if ← has o (.name "cause") then defineHidden id "cause" (← getName options "cause")
  | _ => pure ()
  if aggregate then defineHidden id "errors" (← newArray (← collect (arg args 0)))
  defineHidden id "stack" (.ofString (← stackText 1))
  return .obj id

/-- The text of an error: its name and its message. -/
def describe (this : Val) : Script Val := do
  if !this.isObject then throwType "not an object"
  let name ← getName this "name"
  let name ← if name.isUndefined then pure (Units.ofString "Error") else toUnits name
  let message ← getName this "message"
  let message ← if message.isUndefined then pure #[] else toUnits message
  if name.isEmpty then return .str message
  if message.isEmpty then return .str name
  return .str (name ++ Units.ofString ": " ++ message)

def spec (kind : ErrorKind) : ClassSpec where
  proto := kind.proto
  constructor := ⟨kind.name, if kind == .aggregateError then 2 else 1,
    fun _ args target => make kind args target⟩
  parent := if kind == .error then none else some "Error"
  methods := if kind == .error then [.method "toString" 0 fun this _ => describe this] else []

def specs : List ClassSpec :=
  [.error, .evalError, .rangeError, .referenceError, .syntaxError, .typeError, .uriError,
    .internalError, .aggregateError].map spec

/-- The symbol that `this` is or wraps. -/
def ownSymbol (this : Val) : Script Nat := do
  match this with
  | .sym s => return s
  | .obj id => match (← obj id).kind with
    | .wrapper (.sym s) => return s
    | _ => throwType "not a symbol"
  | _ => throwType "not a symbol"

def newSymbol (info : SymbolInfo) : Script Val := modifyGet fun m =>
  (.sym m.symbols.size, { m with symbols := m.symbols.push info })

def symbolSpec : ClassSpec where
  proto := .symbolProto
  constructor := ⟨"Symbol", 0, fun _ args target => do
    if !target.isUndefined then throwType "not a constructor"
    let v := arg args 0
    let description ← if v.isUndefined then pure none else do pure (some (← toText v))
    newSymbol { description }⟩
  statics := [
    .method "for" 1 fun _ args => do
      let key ← toText (arg args 0)
      match (← MonadState.get).symbols.findIdx? fun s => s.isShared && s.description == some key with
      | some i => return .sym i
      | none => newSymbol { description := some key, isShared := true },
    .method "keyFor" 1 fun _ args => do
      match arg args 0 with
      | .sym s => match (← MonadState.get).symbols[s]? with
        | some info => if info.isShared then
            return (info.description.map Val.ofString).getD .undefined else return .undefined
        | none => return .undefined
      | _ => throwType "not a symbol"]
  methods := [
    .method "toString" 0 fun this _ => do
      let s ← ownSymbol this
      return .ofString ("Symbol(" ++ (← MonadState.get).keyText (.symbol s) ++ ")"),
    .method "valueOf" 0 fun this _ => do return .sym (← ownSymbol this),
    .getter "description" fun this => do
      let s ← ownSymbol this
      return (((← MonadState.get).symbols.getD s default).description.map Val.ofString).getD .undefined,
    .symbolMethod .toPrimitive 1 fun this _ => do return .sym (← ownSymbol this)]
  constants := WellKnown.names.mapIdx fun i name => (name, .sym i)

end ScriptHost.ProtoScript.Builtin.Errors
