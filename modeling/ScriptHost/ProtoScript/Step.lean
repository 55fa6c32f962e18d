import ScriptHost.ProtoScript.Invoke
import ScriptHost.ProtoScript.Iterate
import ScriptHost.ProtoScript.Operator
import ScriptHost.ProtoScript.Parser.Program

/-!
# One instruction

* `Outcome` — what came of an instruction.
* `Script.step` — runs the present instruction.
* `Script.unwind` — hands an error to the innermost handler.
-/

namespace ScriptHost.ProtoScript

open Text (Units)

/-- What came of an instruction. -/
inductive Outcome where
  | running
  /-- An activation that nothing in the code waits for has ended. -/
  | finished (v : Val)
  /-- A generator hands out a value. -/
  | yielded (v : Val)
  /-- The code waits for a promise. -/
  | waiting

namespace Script

/-! ## Operands -/

def updateFrame (f : Frame → Frame) : Script Unit := modify fun m => { m with frame := f m.frame }

def push (v : Val) : Script Unit := modify fun m =>
  { m with frame := { m.frame with stack := m.frame.stack.push v } }

/-- Takes the last operand. -/
def pop : Script Val := modifyGet fun m =>
  let v := m.frame.stack.back?.getD .undefined
  (v, { m with frame := { m.frame with stack := m.frame.stack.pop } })

/-- Takes several operands; the last one is the last of the answer. -/
def popMany (n : Nat) : Script (Array Val) := modifyGet fun m =>
  let at0 := m.frame.stack.size - n
  (m.frame.stack.extract at0 m.frame.stack.size,
    { m with frame := { m.frame with stack := m.frame.stack.shrink at0 } })

/-- The operand that has `n` others above it. -/
def operand (n : Nat) : Script Val := do
  let s := (← MonadState.get).frame.stack
  return s.getD (s.size - 1 - n) .undefined

/-- Replaces the operand that has `n` others above it. -/
def setOperand (n : Nat) (v : Val) : Script Unit := modify fun m =>
  { m with frame := { m.frame with
      stack := m.frame.stack.setIfInBounds (m.frame.stack.size - 1 - n) v } }

/-- Replaces the last `n` operands. -/
def rearrange (n : Nat) (f : Array Val → Array Val) : Script Unit := modify fun m =>
  let s := m.frame.stack
  let at0 := s.size - n
  { m with frame := { m.frame with stack := s.extract 0 at0 ++ f (s.extract at0 s.size) } }

/-- Goes on with the next instruction. -/
def goOn : Script Outcome := do
  modify fun m => { m with frame := { m.frame with pc := m.frame.pc + 1 } }
  return .running

def jumpTo (label : Nat) : Script Outcome := do
  modify fun m => { m with frame := { m.frame with pc := m.frame.code.labels.getD label 0 } }
  return .running

/-- Pushes a value and goes on. -/
def answer (v : Val) : Script Outcome := do
  push v
  goOn

/-! ## Errors -/

/-- Gives up the innermost handler. -/
def dropHandler : Script Unit := updateFrame fun f => { f with handlers := f.handlers.drop 1 }

/-- Tries the handlers of the present activation. -/
def tryHandlers (v : Val) : List Handler → Script Bool
  | [] => return false
  | h :: rest => do
    updateFrame fun f => { f with
      handlers := rest, stack := f.stack.shrink h.height, scope := h.scope }
    match h.label with
    | some l =>
      push v
      let _ ← jumpTo l
      return true
    | none =>
      closeIteratorQuietly (← operand 1)
      tryHandlers v rest

/-- Hands an error to the innermost handler; activations without one end. -/
def unwind (v : Val) : Nat → Script Unit
  | 0 => throwVal v
  | fuel + 1 => do
    modify fun m => { m with natives := [] }
    let frame := (← MonadState.get).frame
    if ← tryHandlers v frame.handlers then return
    popFrame
    if frame.entry then throwVal v else unwind v fuel

/-! ## Calls -/

/-- Calls from code: the operands are taken, and the value will be pushed. -/
def callFrom (f this : Val) (args : Array Val) (target : Val := .undefined) : Script Outcome := do
  match ← begin f this args target false 64 with
  | some v => answer v
  | none => return .running

/-- Ends the present activation with a value. -/
def returnFrom (v : Val) : Script Outcome := do
  let frame := (← MonadState.get).frame
  let v ← match frame.purpose with
    | .construct =>
      if v.isObject then pure v
      else if frame.code.form == .derivedConstructor && !v.isUndefined then
        throwType "derived class constructor must return an object or undefined"
      else thisVal
    | _ => pure v
  popFrame
  if frame.entry then return .finished v else answer v

/-- Adds parsed codes; the number of the last one. -/
def addCodes (codes : Array Code) : Script Nat := modifyGet fun m =>
  (m.codes.size + codes.size - 1, { m with codes := m.codes ++ codes })

/-- Parses a program and adds its codes; the number of the program's own code. -/
def compile (text : String) (mode : ProgramMode) : Script Nat := do
  let base := (← MonadState.get).codes.size
  match Program.parse text { mode with base } with
  | .ok codes => addCodes codes
  | .error e => throwSyntax e.message mode.file e.line e.column

/-- A call of `eval` by that name. -/
def directEval (f : Val) (args : Array Val) : Script Outcome := do
  match f, args.getD 0 .undefined with
  | .obj id, .str text =>
    if id == Intrinsic.evalFunction.id then
      let frame := (← MonadState.get).frame
      let inFunction := (← context).1 != 0
      let closure ← enclosingClosure
      let code := closure.map fun c => (c.home, c.code)
      let m ← MonadState.get
      let form := match code with
        | some (_, n) => (m.codes.getD n {}).form
        | none => .program
      let hasHome := match code with
        | some (.obj _, _) => true
        | _ => false
      let number ← compile text.toString {
        isGlobal := false
        strict := frame.code.strict
        file := "<input>"
        newTargetAllowed := inFunction
        superAllowed := hasHome
        superCallAllowed := form == .derivedConstructor
        argumentsAllowed := form != .fields }
      let program := (← MonadState.get).codes.getD number {}
      let scope ← declareInner program frame.scope
      pushFrame { code := program, scope, callee := .undefined }
      return .running
    else callFrom f .undefined args
  | .obj id, v =>
    if id == Intrinsic.evalFunction.id then answer v else callFrom f .undefined args
  | _, _ => callFrom f .undefined args

/-! ## Objects and classes -/

/-- Names a function that has no name of its own. -/
def nameFunction (f : Val) (name : String) : Script Unit := do
  match f with
  | .obj id =>
    if ((← obj id).named? (.name "name")).isNone then
      define id (.name "name") ⟨.value (.ofString name) false, false, true⟩
  | _ => return

/-- The name that a key gives to a function. -/
def nameOfKey (k : Key) : Script String := do
  match k with
  | .name s => return s
  | .symbol id => match ((← MonadState.get).symbols.getD id default).description with
    | some s => return "[" ++ s ++ "]"
    | none => return ""

/-- Sets the home of a method. -/
def setHome (f : Val) (home : Val) : Script Unit := do
  match f with
  | .obj id => updateObj id fun o => match o.kind with
    | .function c => { o with kind := .function { c with home } }
    | _ => o
  | _ => return

/-- Adds a method, getter or setter to an object. -/
def defineMethod (o : Val) (k : Key) (f : Val) (role : MethodRole) (enumerable : Bool) :
    Script Unit := do
  let .obj id := o | return
  setHome f o
  let name ← nameOfKey k
  let earlier := (← MonadState.get).ownProperty? id k
  match role with
  | .method =>
    nameFunction f name
    let _ ← defineOwn id k {
      value := some f, writable := some true, enumerable := some enumerable
      configurable := some true }
  | .getter =>
    nameFunction f ("get " ++ name)
    let setter := match earlier with
      | some ⟨.accessor _ s, _, _⟩ => s
      | _ => .undefined
    let _ ← defineOwn id k {
      getter := some f, setter := some setter, enumerable := some enumerable
      configurable := some true }
  | .setter =>
    nameFunction f ("set " ++ name)
    let getter := match earlier with
      | some ⟨.accessor g _, _, _⟩ => g
      | _ => .undefined
    let _ ← defineOwn id k {
      getter := some getter, setter := some f, enumerable := some enumerable
      configurable := some true }

/-- Makes a class of its constructor and its parent: the class and its prototype. -/
def defineClass (parent f : Val) (hasParent : Bool) : Script Unit := do
  let .obj id := f | return
  let (proto, above) ← if !hasParent then
      pure (some Intrinsic.objectProto.id, Intrinsic.functionProto.id)
    else match parent with
      | .null => pure (none, Intrinsic.functionProto.id)
      | .obj p =>
        if !(← MonadState.get).isConstructor parent then
          throwType "parent class must be constructor"
        match ← getName parent "prototype" with
        | .obj q => pure (some q, p)
        | .null => pure (none, p)
        | _ => throwType "parent prototype must be an object or null"
      | _ => throwType "parent class must be constructor"
  let p ← alloc { proto }
  updateObj id fun o => { o with proto := some above }
  define id (.name "prototype") (.fixed (.obj p))
  defineHidden p "constructor" f
  setHome f (.obj p)
  push f
  push (.obj p)

/-- The private names of an object are properties whose keys are symbols of their own. -/
def privateKey (name : Val) : Key := match name with
  | .sym id => .symbol id
  | _ => .name ""

def getPrivate (o name : Val) : Script Val := do
  match o with
  | .obj id => match (← obj id).named? (privateKey name) with
    | some ⟨.accessor .undefined _, _, _⟩ => throwType "no getter for private property"
    | some p => readSlot (some p) o
    | none =>
      let text := (← MonadState.get).keyText (privateKey name)
      throwType ("private class field '#" ++ text ++ "' does not exist")
  | _ => throwType "not an object"

def putPrivate (o name v : Val) : Script Unit := do
  match o with
  | .obj id => match (← obj id).named? (privateKey name) with
    | some ⟨.accessor _ setter, _, _⟩ =>
      if setter.isUndefined then throwType "no setter for private property"
      let _ ← call setter o #[v]
    | some ⟨.value _ true, _, _⟩ =>
      updateObj id fun o => o.setNamed (privateKey name) ⟨.value v true, false, false⟩
    | some _ => throwType "private method is read-only"
    | none =>
      let text := (← MonadState.get).keyText (privateKey name)
      throwType ("private class field '#" ++ text ++ "' does not exist")
  | _ => throwType "not an object"

def definePrivate (o name v : Val) : Script Unit := do
  match o with
  | .obj id =>
    if ((← obj id).named? (privateKey name)).isSome then
      throwType "private class field already exists"
    updateObj id fun o => o.setNamed (privateKey name) ⟨.value v true, false, false⟩
  | _ => throwType "not an object"

/-- Adds a private method, getter or setter to an object. -/
def definePrivateMethod (o name f : Val) (role : MethodRole) : Script Unit := do
  let .obj id := o | throwType "not an object"
  let earlier := (← obj id).named? (privateKey name)
  let (getter, setter) := match earlier with
    | some ⟨.accessor g s, _, _⟩ => (g, s)
    | _ => (Val.undefined, Val.undefined)
  let slot := match role with
    | .method => Slot.value f false
    | .getter => .accessor f setter
    | .setter => .accessor getter f
  updateObj id fun o => o.setNamed (privateKey name) ⟨slot, false, false⟩

/-- The object that a tagged template hands to its tag. -/
def templateObject (cooked : List (Option Units)) (raw : List Units) : Script Val := do
  let freeze (vs : Array Val) : Script Nat := alloc {
    proto := some Intrinsic.arrayProto.id
    kind := .array vs.size false
    extensible := false
    props := vs.mapIdx fun i v => (Key.ofNat i, ⟨.value v false, true, false⟩) }
  let raws ← freeze (raw.map Val.str).toArray
  let strings ← freeze (cooked.map fun c => match c with
    | some u => Val.str u
    | none => .undefined).toArray
  updateObj strings fun o => o.setNamed (.name "raw") (.fixed (.obj raws))
  return .obj strings

/-! ## Destructuring and loops -/

/-- The next value of the iterator below some operands; a finished iterator is remembered. -/
def patternNext (depth : Nat) : Script (Option Val) := do
  let iterator ← operand (depth + 1)
  if iterator.isUndefined then return none
  let next ← operand depth
  let r ← catching (advance iterator next) fun e => do
    setOperand (depth + 1) .undefined
    throwVal e
  if r.isNone then setOperand (depth + 1) .undefined
  return r

/-- The remaining values of the iterator below some operands. -/
def patternRest (depth : Nat) : Nat → Array Val → Script (Array Val)
  | 0, _ => throw .exhausted
  | fuel + 1, done => do
    match ← patternNext depth with
    | some v => patternRest depth fuel (done.push v)
    | none => return done

/-- The properties of a source that are not excluded, as a new object. -/
def restProperties (source excluded : Val) : Script Val := do
  let keys ← match excluded with
    | .obj id => pure ((← MonadState.get).ownKeys id).toList
    | _ => pure []
  let id ← newObject
  copyOwn id source keys
  return .obj id

/-! ## Generators -/

/-- Goes on after a value was handed out. -/
def afterYield (first : Bool) : Script Outcome := do
  match (← MonadState.get).frame.sent with
  | .next v =>
    if first then goOn
    else
      push v
      answer (.bool false)
  | .throwing v => throwVal v
  | .returning v =>
    push v
    answer (.bool true)

/-- A step of handing on the values of another iterator. -/
def delegateStep (iterator next : Val) : Script Outcome := do
  let sent := (← MonadState.get).frame.sent
  let finish (v : Val) (returning : Bool) : Script Outcome := do
    updateFrame fun f => { f with delegate := none }
    push v
    answer (.bool returning)
  let proceed (r : Val) (returning : Bool) : Script Outcome := do
    if !r.isObject then throwType "iterator must return an object"
    if (← getName r "done").truthy then finish (← getName r "value") returning
    else return .yielded (← getName r "value")
  match sent with
  | .next v => proceed (← call next iterator #[v]) false
  | .throwing v =>
    match ← getMethod? iterator (.name "throw") with
    | some f => proceed (← call f iterator #[v]) false
    | none =>
      closeIterator iterator
      throwType "iterator does not have a throw method"
  | .returning v =>
    match ← getMethod? iterator (.name "return") with
    | some f => proceed (← call f iterator #[v]) true
    | none => finish v true

/-! ## All instructions -/

/-- Instructions that only move operands. -/
def shuffle : Instr → Script Unit
  | .dup => do push (← operand 0)
  | .drop => do let _ ← pop
  | .swap => rearrange 2 fun s => #[s.getD 1 .undefined, s.getD 0 .undefined]
  | .nip => rearrange 2 fun s => #[s.getD 1 .undefined]
  | .dup2 => rearrange 2 fun s => s ++ s
  | .insert2 => rearrange 2 fun s => #[s.getD 1 .undefined] ++ s
  | .insert3 => rearrange 3 fun s => #[s.getD 2 .undefined] ++ s
  | .insert4 => rearrange 4 fun s => #[s.getD 3 .undefined] ++ s
  | .perm3 => rearrange 3 fun s => #[s.getD 1 .undefined, s.getD 0 .undefined, s.getD 2 .undefined]
  | .perm4 => rearrange 4 fun s => #[s.getD 2 .undefined] ++ s.extract 0 2 ++ s.extract 3 4
  | .perm5 => rearrange 5 fun s => #[s.getD 3 .undefined] ++ s.extract 0 3 ++ s.extract 4 5
  | .rotLeft3 => rearrange 3 fun s => s.extract 1 3 ++ s.extract 0 1
  | .rotRight3 => rearrange 3 fun s => s.extract 2 3 ++ s.extract 0 2
  | .rotLeft4 => rearrange 4 fun s => s.extract 1 4 ++ s.extract 0 1
  | _ => return

/-- Instructions on variables and the function around. -/
def stepVariable : Instr → Script Outcome
  | .this => do answer (← thisVal)
  | .newTarget => do answer (← context).2.2.2
  | .getVar name => do answer (← getVar name)
  | .getVarOrUndef name => do answer (← getVarOrUndef name)
  | .checkVar name => do
    checkVar name
    goOn
  | .putVar name => do
    putVar name (← pop)
    goOn
  | .initVar name => do
    initVar name (← pop)
    goOn
  | .putFunctionVar name => do
    putFunctionVar name (← pop)
    goOn
  | .deleteVar name => do answer (.bool (← deleteVar name))
  | .calleeVar name => do
    let (this, f) ← calleeVar name
    push this
    answer f
  | .superBase => do answer (← superBase)
  | .superConstructor => do
    match (← context).2.2.1 with
    | .obj id => match (← obj id).proto with
      | some p =>
        if (← MonadState.get).isConstructor (.obj p) then answer (.obj p)
        else throwType "parent class must be constructor"
      | none => throwType "parent class must be constructor"
    | _ => throwType "parent class must be constructor"
  | .bindThis => do
    bindThis (← operand 0)
    goOn
  | .initFields => do
    match (← enclosingClosure).map Closure.fields with
    | some (.obj f) =>
      let _ ← call (.obj f) (← thisVal) #[]
      goOn
    | _ => goOn
  | .argument i => do answer ((← MonadState.get).frame.args.getD i .undefined)
  | .restArguments i => do
    let args := (← MonadState.get).frame.args
    answer (← newArray (args.extract i args.size))
  | .enterScope vars functions => do
    enterBlock vars functions
    goOn
  | .leaveScope => do
    leaveBlock
    goOn
  | .renewScope => do
    renewBlock
    goOn
  | .enterWith => do
    let o ← toObject (← pop)
    let parent := (← MonadState.get).frame.scope
    setScope (← newScope { parent, kind := .object (.obj o) })
    goOn
  | _ => goOn

/-- Instructions on properties. -/
def stepProperty : Instr → Script Outcome
  | .getField name => do answer (← getName (← pop) name)
  | .getFieldKeep name => do answer (← getName (← operand 0) name)
  | .getElem => do
    let k ← pop
    let o ← pop
    if o.isNullish then answer (← get o (← toKey k))
    else answer (← get o (← toKey k))
  | .getElemMethod => do
    let k ← pop
    answer (← get (← operand 0) (← toKey k))
  | .getElemKeep => do answer (← get (← operand 1) (← toKey (← operand 0)))
  | .putField name => do
    let v ← pop
    put (← pop) (.name name) v (← isStrictCode)
    goOn
  | .putElem => do
    let v ← pop
    let k ← pop
    let o ← pop
    put o (← toKey k) v (← isStrictCode)
    goOn
  | .deleteElem => do
    let k ← pop
    let o ← pop
    let id ← toObject o
    answer (.bool (← delete id (← toKey k) (← isStrictCode)))
  | .getSuper => do
    let k ← pop
    let p ← pop
    let this ← pop
    let k ← toKey k
    match p with
    | .obj id => answer (← getFrom id k this)
    | _ => answer (← get p k)
  | .getSuperMethod => do
    let k ← toKey (← pop)
    let p ← pop
    match p with
    | .obj id => answer (← getFrom id k (← operand 0))
    | _ => answer (← get p k)
  | .getSuperKeep => do
    let k ← toKey (← operand 0)
    match ← operand 1 with
    | .obj id => answer (← getFrom id k (← operand 2))
    | p => answer (← get p k)
  | .putSuper => do
    let v ← pop
    let k ← toKey (← pop)
    let p ← pop
    let this ← pop
    match p with
    | .obj id => putOn id k v this (← isStrictCode)
    | _ => put p k v (← isStrictCode)
    goOn
  | .getPrivate => do
    let name ← pop
    answer (← getPrivate (← pop) name)
  | .getPrivateMethod => do
    let name ← pop
    answer (← getPrivate (← operand 0) name)
  | .getPrivateKeep => do answer (← getPrivate (← operand 1) (← operand 0))
  | .putPrivate => do
    let v ← pop
    let name ← pop
    putPrivate (← pop) name v
    goOn
  | .definePrivate => do
    let v ← pop
    let name ← pop
    definePrivate (← operand 0) name v
    goOn
  | .definePrivateMethod role => do
    let f ← pop
    let name ← pop
    definePrivateMethod (← operand 0) name f role
    goOn
  | .hasPrivate => do
    let name ← pop
    match ← pop with
    | .obj id => answer (.bool ((← obj id).named? (privateKey name)).isSome)
    | _ => throwType "invalid 'in' operand"
  | .newPrivateName text => do
    let id ← modifyGet fun m => (m.symbols.size, { m with
      symbols := m.symbols.push { description := some text, isPrivate := true } })
    answer (.sym id)
  | .toKey => do answer (.ofKey (← toKey (← pop)))
  | .toKeyUnder => do
    let k ← pop
    if (← operand 0).isNullish then answer k else answer (.ofKey (← toKey k))
  | _ => goOn

/-- Instructions that make objects. -/
def stepObject : Instr → Script Outcome
  | .closure code => do
    let m ← MonadState.get
    answer (← makeClosure code m.frame.scope)
  | .regexp r source => do
    let id ← alloc { proto := some Intrinsic.regexpProto.id, kind := .regexp r source }
    define id (.name "lastIndex") ⟨.value (.num 0) true, false, false⟩
    answer (.obj id)
  | .templateObject cooked raw => do answer (← templateObject cooked raw)
  | .newObject => do answer (.obj (← newObject))
  | .defineField name => do
    let v ← pop
    match ← operand 0 with
    | .obj id => let _ ← defineOwn id (.name name) (.ofProperty (.plain v))
    | _ => pure ()
    goOn
  | .defineElem => do
    let v ← pop
    let k ← toKey (← pop)
    match ← operand 0 with
    | .obj id => let _ ← defineOwn id k (.ofProperty (.plain v))
    | _ => pure ()
    goOn
  | .defineMethod name role enumerable => do
    let f ← pop
    defineMethod (← operand 0) (.name name) f role enumerable
    goOn
  | .defineMethodElem role enumerable => do
    let f ← pop
    let k ← toKey (← pop)
    defineMethod (← operand 0) k f role enumerable
    goOn
  | .setProto => do
    let v ← pop
    match ← operand 0, v with
    | .obj id, .obj p => updateObj id fun o => { o with proto := some p }
    | .obj id, .null => updateObj id fun o => { o with proto := none }
    | _, _ => pure ()
    goOn
  | .setName name => do
    nameFunction (← operand 0) name
    goOn
  | .setNameFromKey => do
    let k ← toKey (← operand 1)
    nameFunction (← operand 0) (← nameOfKey k)
    goOn
  | .setHome => do
    setHome (← operand 0) (← operand 1)
    goOn
  | .copyProperties => do
    let source ← pop
    match ← operand 0 with
    | .obj id => copyOwn id source []
    | _ => pure ()
    goOn
  | .restProperties depth => do
    answer (← restProperties (← operand depth) (← operand (depth + 1)))
  | .newArray => do answer (← newArray #[])
  | .collect n => do answer (← newArray (← popMany n))
  | .arrayPush => do
    let v ← pop
    match ← operand 0 with
    | .obj id => updateObj id fun o => match o.kind with
      | .array n w => { o with
          kind := .array (n + 1) w, elements := Obj.putElement o.elements n v }
      | _ => o
    | _ => pure ()
    goOn
  | .arrayHole => do
    match ← operand 0 with
    | .obj id => updateObj id fun o => match o.kind with
      | .array n w => { o with kind := .array (n + 1) w }
      | _ => o
    | _ => pure ()
    goOn
  | .arraySpread => do
    let source ← pop
    let more ← collect source
    match ← operand 0 with
    | .obj id => updateObj id fun o => match o.kind with
      | .array n w => { o with
          kind := .array (n + more.size) w
          elements := o.elements ++ Array.replicate (n - o.elements.size) Val.empty ++ more }
      | _ => o
    | _ => pure ()
    goOn
  | .defineClass _ hasParent => do
    let f ← pop
    let parent ← pop
    defineClass parent f hasParent
    goOn
  | .setFields => do
    let f ← pop
    setHome f (← operand 0)
    match ← operand 1 with
    | .obj id => updateObj id fun o => match o.kind with
      | .function c => { o with kind := .function { c with fields := f } }
      | _ => o
    | _ => pure ()
    goOn
  | _ => goOn

/-- Instructions that call. -/
def stepCall : Instr → Script Outcome
  | .call n => do
    let args ← popMany n
    callFrom (← pop) .undefined args
  | .callMethod n => do
    let args ← popMany n
    let f ← pop
    callFrom f (← pop) args
  | .construct n => do
    let args ← popMany n
    let target ← pop
    let f ← pop
    callFrom f .empty args (if target.isUndefined then f else target)
  | .apply => do
    let args ← listOf (← pop)
    let f ← pop
    callFrom f (← pop) args
  | .constructApply => do
    let args ← listOf (← pop)
    let target ← pop
    let f ← pop
    callFrom f .empty args (if target.isUndefined then f else target)
  | .directEval n => do
    let args ← popMany n
    directEval (← pop) args
  | _ => goOn

/-- Instructions for loops and patterns. -/
def stepLoop : Instr → Script Outcome
  | .forIn => do answer (← enumerate (← pop))
  | .forInNext => do
    match ← operand 0 with
    | .obj e => match (← obj e).kind with
      | .names (.obj target) rest =>
        match nextName (← MonadState.get) target rest with
        | some (s, rest) =>
          updateObj e fun o => { o with kind := .names (.obj target) rest }
          push (.ofString s)
          answer (.bool false)
        | none =>
          push .undefined
          answer (.bool true)
      | _ =>
        push .undefined
        answer (.bool true)
    | _ =>
      push .undefined
      answer (.bool true)
  | .iterate async => do
    let (iterator, next) ← openIterator (← pop) async
    push iterator
    push next
    updateFrame fun f => { f with handlers := ⟨none, f.stack.size, f.scope⟩ :: f.handlers }
    goOn
  | .iterateNext => do
    match ← patternNext 0 with
    | some v =>
      push v
      answer (.bool false)
    | none =>
      push .undefined
      answer (.bool true)
  | .iterateClose => do
    dropHandler
    let _ ← pop
    closeIterator (← pop)
    goOn
  | .iterateDone => do
    dropHandler
    let _ ← popMany 2
    goOn
  | .iterateCloseUnder => do
    let v ← pop
    let _ ← pop
    closeIterator (← pop)
    answer v
  | .patternNext depth => do answer ((← patternNext depth).getD .undefined)
  | .patternRest depth => do answer (← newArray (← patternRest depth stepLimit #[]))
  | .requireObject => do
    if (← operand 0).isNullish then throwType "cannot convert to object"
    goOn
  | _ => goOn

/-- Instructions that direct the control. -/
def stepControl : Instr → Script Outcome
  | .jump l => jumpTo l
  | .jumpFalse l => do if (← pop).truthy then goOn else jumpTo l
  | .jumpTrue l => do if (← pop).truthy then jumpTo l else goOn
  | .isNullish => do answer (.bool (← pop).isNullish)
  | .isUndefined => do answer (.bool (← pop).isUndefined)
  | .throwValue => do throwVal (← pop)
  | .throwKind kind message => throwKind kind message
  | .pushHandler l => do
    updateFrame fun f => { f with handlers := ⟨some l, f.stack.size, f.scope⟩ :: f.handlers }
    goOn
  | .popHandler => do
    dropHandler
    goOn
  | .nipHandler => do
    let v ← pop
    updateFrame fun f => match f.handlers with
      | h :: rest => { f with
          handlers := rest, stack := (f.stack.shrink h.height).push v, scope := h.scope }
      | [] => f
    goOn
  | .gosub l => do
    push (.ofNat ((← MonadState.get).frame.pc + 1))
    jumpTo l
  | .endSub => do
    match ← pop with
    | .num pc => updateFrame fun f => { f with pc := pc.toUInt64.toNat }
    | _ => pure ()
    return .running
  | .returnValue => do
    let v ← operand 0
    returnFrom v
  | .setCompletion => do
    let v ← pop
    updateFrame fun f => { f with completion := v }
    goOn
  | .clearCompletion => do
    updateFrame fun f => { f with completion := .undefined }
    goOn
  | .getCompletion => do answer (← MonadState.get).frame.completion
  | .initialYield => return .yielded .undefined
  | .yieldValue => do
    let v ← pop
    return .yielded v
  | .yieldAll => do
    match (← MonadState.get).frame.delegate with
    | some (iterator, next) => delegateStep iterator next
    | none =>
      let (iterator, next) ← openIterator (← pop)
      updateFrame fun f => { f with delegate := some (iterator, next), sent := .next .undefined }
      delegateStep iterator next
  | .await => return .waiting
  | _ => goOn

/-- Runs an instruction. -/
def exec (i : Instr) : Script Outcome :=
  match i with
  | .push v => answer v
  | .unary op => do answer (← unary op (← pop))
  | .binary op => do
    let b ← pop
    let a ← pop
    answer (← binary op a b)
  | .dup | .drop | .swap | .nip | .dup2 | .insert2 | .insert3 | .insert4 | .perm3 | .perm4 | .perm5
  | .rotLeft3 | .rotRight3 | .rotLeft4 => do
    shuffle i
    goOn
  | .this | .newTarget | .getVar _ | .getVarOrUndef _ | .checkVar _ | .putVar _ | .initVar _
  | .putFunctionVar _ | .deleteVar _ | .calleeVar _ | .superBase | .superConstructor | .bindThis
  | .initFields | .argument _ | .restArguments _ | .enterScope _ _ | .leaveScope | .renewScope
  | .enterWith => stepVariable i
  | .getField _ | .getFieldKeep _ | .getElem | .getElemMethod | .getElemKeep | .putField _
  | .putElem | .deleteElem | .getSuper | .getSuperMethod | .getSuperKeep | .putSuper | .getPrivate
  | .getPrivateMethod | .getPrivateKeep | .putPrivate | .definePrivate | .definePrivateMethod _
  | .hasPrivate | .newPrivateName _ | .toKey | .toKeyUnder => stepProperty i
  | .call _ | .callMethod _ | .construct _ | .apply | .constructApply | .directEval _ => stepCall i
  | .forIn | .forInNext | .iterate _ | .iterateNext | .iterateClose | .iterateDone
  | .iterateCloseUnder | .patternNext _ | .patternRest _ | .requireObject => stepLoop i
  | .jump _ | .jumpFalse _ | .jumpTrue _ | .isNullish | .isUndefined | .throwValue
  | .throwKind _ _ | .pushHandler _ | .popHandler | .nipHandler | .gosub _ | .endSub
  | .returnValue | .setCompletion | .clearCompletion | .getCompletion | .initialYield
  | .yieldValue | .yieldAll | .await => stepControl i
  | .nop | .checkConstructed => goOn
  | _ => stepObject i

/-- Runs the present instruction; code that has none left returns. -/
def step : Script Outcome := do
  let m ← MonadState.get
  match m.frame.code.instrs[m.frame.pc]? with
  | some i => exec i
  | none => returnFrom .undefined

end Script

end ScriptHost.ProtoScript
