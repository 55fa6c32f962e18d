import ScriptHost.ProtoScript.Assign

/-!
# Variables

A name stands for a variable of the innermost scope that has it, or for a property of an object whose
properties are variables, or for a property of the global object.

* `Script.findVar` — where a name leads.
* `Script.getVar`, `putVar`, `initVar`, `deleteVar` — the uses of a variable.
* `Script.thisVal` and others — what belongs to the function around.
* `Script.declare` — the variables of a program.
-/

namespace ScriptHost.ProtoScript

/-- Where a name leads. -/
inductive Place where
  /-- A variable of a scope. -/
  | variable (scope : Nat) (b : Binding)
  /-- A property of an object. -/
  | member (o : Val)
  /-- A property of the global object. -/
  | global
  | absent

namespace Script

/-- Whether an object hides a property from the names it makes visible. -/
def isHidden (o : Val) (name : String) : Script Bool := do
  match ← get o WellKnown.unscopables.key with
  | .obj id => return (← getName (.obj id) name).truthy
  | _ => return false

/-- Where a name leads, seen from a scope. -/
def findFrom (name : String) : Nat → Nat → Script Place
  | 0, _ => return .absent
  | fuel + 1, scope => do
    let m ← MonadState.get
    match m.scopes[scope]? with
    | none => return .absent
    | some s =>
      match s.bindings.find? fun b => b.name == name with
      | some b => return .variable scope b
      | none =>
        match s.kind with
        | .object (.obj o) =>
          if (m.property? o (.name name)).isSome && !(← isHidden (.obj o) name) then
            return .member (.obj o)
          else findFrom name fuel s.parent
        | .global =>
          return if (m.property? Intrinsic.global.id (.name name)).isSome then .global else .absent
        | _ => findFrom name fuel s.parent

/-- Where a name leads. -/
def findVar (name : String) : Script Place := do
  let m ← MonadState.get
  findFrom name (m.scopes.size + 1) m.frame.scope

def throwUndefined {α : Type} (name : String) : Script α :=
  throwKind .referenceError ("'" ++ name ++ "' is not defined")

def throwUninitialized {α : Type} (name : String) : Script α :=
  throwKind .referenceError (name ++ " is not initialized")

/-- The value at a place. -/
def readPlace (name : String) : Place → Script (Option Val)
  | .variable _ b => match b.value with
    | .empty => throwUninitialized name
    | v => return some v
  | .member o => return some (← getName o name)
  | .global => return some (← getName Intrinsic.global.val name)
  | .absent => return none

def getVar (name : String) : Script Val := do
  match ← readPlace name (← findVar name) with
  | some v => return v
  | none => throwUndefined name

/-- The value of a variable, `undefined` if there is none. -/
def getVarOrUndef (name : String) : Script Val := do
  return (← readPlace name (← findVar name)).getD .undefined

/-- What a call of a plain name calls, with its `this`. -/
def calleeVar (name : String) : Script (Val × Val) := do
  let place ← findVar name
  match ← readPlace name place with
  | none => throwUndefined name
  | some f => match place with
    | .member o => return (o, f)
    | _ => return (.undefined, f)

def isStrictCode : Script Bool := return (← MonadState.get).frame.code.strict

/-- Fails if a variable is known not to be assignable. -/
def checkVar (name : String) : Script Unit := do
  match ← findVar name with
  | .variable scope b =>
    match b.mutability with
    | .constant => throwType ("'" ++ name ++ "' is read-only")
    | _ => match b.value with
      | .empty => if scope == 0 then throwUninitialized name
      | _ => return
  | _ => return

def putVar (name : String) (v : Val) : Script Unit := do
  match ← findVar name with
  | .variable scope b =>
    match b.mutability, b.value with
    | .constant, _ => throwType ("'" ++ name ++ "' is read-only")
    | .ownName, _ => refuse (← isStrictCode) ("'" ++ name ++ "' is read-only")
    | .variable, .empty => throwUninitialized name
    | .variable, _ => setBinding scope name v
  | .member o => put o (.name name) v (← isStrictCode)
  | .global => put Intrinsic.global.val (.name name) v (← isStrictCode)
  | .absent =>
    if ← isStrictCode then throwUndefined name
    else put Intrinsic.global.val (.name name) v false

/-- The innermost scope with a variable of a name. -/
def scopeOf (m : Machine) (name : String) : Nat → Nat → Option Nat
  | 0, _ => none
  | fuel + 1, scope => match m.scopes[scope]? with
    | none => none
    | some s =>
      if s.bindings.any fun b => b.name == name then some scope
      else match s.kind with
        | .global => none
        | _ => scopeOf m name fuel s.parent

/-- Gives a variable its first value. -/
def initVar (name : String) (v : Val) : Script Unit := do
  let m ← MonadState.get
  match scopeOf m name (m.scopes.size + 1) m.frame.scope with
  | some scope => setBinding scope name v
  | none => putVar name v

/-- The innermost scope of a function or program. -/
def bodyScope (m : Machine) : Nat → Nat → Nat
  | 0, _ => 0
  | fuel + 1, scope => match m.scopes[scope]? with
    | none => 0
    | some s => match s.kind with
      | .function _ _ _ | .body | .global => scope
      | _ => bodyScope m fuel s.parent

/-- The scope in which `var` declares names here. -/
def varScope : Script Nat := do
  let m ← MonadState.get
  return bodyScope m (m.scopes.size + 1) m.frame.scope

/-- Assigns to the function-wide variable of a name. -/
def putFunctionVar (name : String) (v : Val) : Script Unit := do
  let scope ← varScope
  if scope == 0 then put Intrinsic.global.val (.name name) v false
  else setBinding scope name v

def deleteVar (name : String) : Script Bool := do
  match ← findVar name with
  | .variable _ _ => return false
  | .member (.obj id) => delete id (.name name) false
  | .member _ => return true
  | .global => delete Intrinsic.global.id (.name name) false
  | .absent => return true

/-! ## What belongs to the function around -/

/-- The scope of the function that has a `this` of its own. -/
def thisScope (m : Machine) : Nat → Nat → Nat
  | 0, _ => 0
  | fuel + 1, scope => match m.scopes[scope]? with
    | none => 0
    | some s => match s.kind with
      | .function _ _ _ | .global => scope
      | _ => thisScope m fuel s.parent

/-- `this`, the function and the class asked for, of the function around; the scope of that. -/
def context : Script (Nat × Val × Val × Val) := do
  let m ← MonadState.get
  let scope := thisScope m (m.scopes.size + 1) m.frame.scope
  match (m.scopes[scope]?).map Scope.kind with
  | some (.function this callee target) => return (scope, this, callee, target)
  | _ => return (0, Intrinsic.global.val, .undefined, .undefined)

def thisVal : Script Val := do
  match (← context).2.1 with
  | .empty => throwKind .referenceError "this is not initialized"
  | v => return v

/-- Sets `this` after the constructor of the parent class has made it. -/
def bindThis (v : Val) : Script Unit := do
  let (scope, this, callee, target) ← context
  match this with
  | .empty => modify fun m => { m with
      scopes := m.scopes.modify scope fun s => { s with kind := .function v callee target } }
  | _ => throwKind .referenceError "'this' can be initialized only once"

/-- The closure of the function around. -/
def enclosingClosure : Script (Option Closure) := do
  match (← context).2.2.1 with
  | .obj id => match (← obj id).kind with
    | .function c => return some c
    | _ => return none
  | _ => return none

/-- The object where `super` looks things up. -/
def superBase : Script Val := do
  match (← enclosingClosure).map Closure.home with
  | some (.obj home) => match (← obj home).proto with
    | some p => return .obj p
    | none => return .null
  | _ => return .undefined

/-! ## Scopes -/

/-- Makes a scope. -/
def newScope (s : Scope) : Script Nat := modifyGet fun m =>
  let id := m.scopes.size
  (id, { m with scopes := m.scopes.push s })

def setScope (scope : Nat) : Script Unit := modify fun m =>
  { m with frame := { m.frame with scope } }

/-- Adds a variable to a scope that has none of that name. -/
def addBinding (scope : Nat) (b : Binding) : Script Unit := modify fun m =>
  { m with scopes := m.scopes.modify scope fun s =>
      if s.bindings.any fun c => c.name == b.name then s
      else { s with bindings := s.bindings.push b } }

/-- The variables that a block declares, before their initialization. -/
def blockBindings (vars : List BlockVar) : Array Binding :=
  (vars.map fun v => ⟨v.name, .empty, if v.constant then .constant else .variable⟩).toArray

/-- The variable of a name, or a function of that name, in a scope that is new. -/
def setFunction (scope : Nat) (name : String) (f : Val) : Script Unit := modify fun m =>
  { m with scopes := m.scopes.modify scope fun s =>
      match s.bindings.findIdx? (·.name == name) with
      | some i => { s with bindings := s.bindings.modify i fun b => { b with value := f } }
      | none => { s with bindings := s.bindings.push ⟨name, f, .variable⟩ } }

/-! ## Closures -/

/-- The prototype of functions of a kind. -/
def functionProto : FunctionKind → Intrinsic
  | .normal => .functionProto
  | .generator => .generatorFunctionProto
  | .async => .asyncFunctionProto
  | .asyncGenerator => .asyncGeneratorFunctionProto

/-- Makes a function of a code in a scope. -/
def makeClosure (code scope : Nat) (proto : Option Nat := none) : Script Val := do
  let c := (← MonadState.get).codes.getD code {}
  let named : Array (Key × Property) := #[
    (.name "length", ⟨.value (.ofNat c.length) false, false, true⟩)]
  let named := if c.name.isEmpty then named
    else named.push (.name "name", ⟨.value (.ofString c.name) false, false, true⟩)
  let id ← alloc {
    proto := some (proto.getD (functionProto c.kind).id)
    kind := .function { code, scope }
    props := named }
  match c.kind, c.form with
  | .normal, .plain =>
    let p ← newObject
    defineHidden p "constructor" (.obj id)
    define id (.name "prototype") ⟨.value (.obj p) true, false, false⟩
  | .generator, _ =>
    let p ← newObject .generatorProto
    define id (.name "prototype") ⟨.value (.obj p) true, false, false⟩
  | .asyncGenerator, _ =>
    let p ← newObject .asyncGeneratorProto
    define id (.name "prototype") ⟨.value (.obj p) true, false, false⟩
  | _, _ => pure ()
  return .obj id

/-! ## The variables of a program -/

/-- Fails if a program may not declare a global variable of a name. -/
def checkGlobal (name : String) (lexical isFunction : Bool) : Script Unit := do
  let m ← MonadState.get
  let redeclared : Script Unit :=
    throwKind .syntaxError ("redeclaration of '" ++ name ++ "'")
  let refused : Script Unit := throwType ("cannot define variable '" ++ name ++ "'")
  match (m.obj Intrinsic.global.id).named? (.name name) with
  | some p =>
    if lexical then
      if !p.configurable then redeclared
    else if isFunction && !p.configurable then
      match p.slot with
      | .value _ true => if !p.enumerable then refused
      | _ => refused
  | none =>
    if !lexical && !(m.obj Intrinsic.global.id).extensible then refused
  if (m.binding? 0 name).isSome then redeclared

/-- Declares the variables of a program in the global scope. -/
def declareGlobals (code : Code) (configurable : Bool) : Script Unit := do
  for name in code.vars do checkGlobal name false false
  for (name, _) in code.functions do checkGlobal name false true
  if code.form == .program then
    for v in code.lexicals do checkGlobal v.name true false
    for b in blockBindings code.lexicals do addBinding 0 b
  let global := Intrinsic.global.id
  for name in code.vars do
    if ((← obj global).named? (.name name)).isNone then
      define global (.name name) ⟨.value .undefined true, true, configurable⟩
  for (name, id) in code.functions do
    let f ← makeClosure id 0
    match (← obj global).named? (.name name) with
    | some p =>
      if p.configurable then define global (.name name) ⟨.value f true, true, configurable⟩
      else define global (.name name) { p with slot := .value f true }
    | none => define global (.name name) ⟨.value f true, true, configurable⟩

/-- Declares what a program declares that is evaluated inside other code, and answers the scope in
which it runs. -/
def declareInner (code : Code) (scope : Nat) : Script Nat := do
  let m ← MonadState.get
  let body := bodyScope m (m.scopes.size + 1) scope
  let inner ← newScope {
    parent := scope
    kind := if code.strict then .body else .block
    bindings := blockBindings code.lexicals }
  let target := if code.strict then inner else body
  if target == 0 then
    declareGlobals code true
  else
    for name in code.vars do addBinding target ⟨name, .undefined, .variable⟩
    for (name, id) in code.functions do
      let f ← makeClosure id inner
      setFunction target name f
  return inner

/-- Enters a block. -/
def enterBlock (vars : List BlockVar) (functions : List (String × Nat)) : Script Unit := do
  let outer := (← MonadState.get).frame.scope
  let scope ← newScope { parent := outer, bindings := blockBindings vars }
  setScope scope
  for (name, id) in functions do
    let f ← makeClosure id scope
    setFunction scope name f

/-- Leaves the innermost scope. -/
def leaveBlock : Script Unit := do
  let m ← MonadState.get
  match m.scopes[m.frame.scope]? with
  | some s => setScope s.parent
  | none => return

/-- Replaces the innermost scope by a copy. -/
def renewBlock : Script Unit := do
  let m ← MonadState.get
  match m.scopes[m.frame.scope]? with
  | some s => setScope (← newScope s)
  | none => return

end Script

end ScriptHost.ProtoScript
