import ScriptHost.ProtoScript.Step

/-!
# Running code

The functions of the machine are given as a table.  They may call back into code, which then runs to
its end before they go on; how deep such calls may nest is bounded, and so is the number of steps.

* `Native` — a function of the machine.
* `Script.run` — runs until the innermost activation that no code waits for has ended.
* `callsAt` — what functions of the machine may ask for, with so many levels of nesting left.
* `Script.runProgram` — runs a text as a program.
-/

namespace ScriptHost.ProtoScript

/-- A function of the machine: it is given `this`, the arguments and the class asked for. -/
structure Native where
  name : String
  length : Nat
  run : Val → Array Val → Val → Script Val

instance : Inhabited Native := ⟨⟨"", 0, fun _ _ _ => return .undefined⟩⟩

namespace Script

/-- Runs until an activation ends that no code waits for, or the code stops to be resumed later. -/
def run : Nat → Script Outcome
  | 0 => throw .exhausted
  | fuel + 1 => do
    let outcome ← try step
      catch
        | .thrown v => do
          unwind v ((← MonadState.get).depth + 1)
          pure .running
        | .exhausted => throw .exhausted
    match outcome with
    | .running => run fuel
    | o => return o

/-- Settles a promise. -/
def settle (promise : Nat) (s : Settlement) : Script Unit :=
  updateObj promise fun o => { o with kind := .promise s }

/-- Makes the promise of an asynchronous function and runs the function as far as it does not wait. -/
def runAsync : Script Val := do
  let p ← alloc { proto := some Intrinsic.promiseProto.id, kind := .promise .pending }
  catching (do
      match ← run stepLimit with
      | .finished v =>
        match v with
        | .obj id => match (← obj id).kind with
          | .promise s => settle p s
          | _ => settle p (.fulfilled v)
        | _ => settle p (.fulfilled v)
      | _ => popFrame)
    fun e => settle p (.rejected e)
  return .obj p

/-- Makes the generator of an activation that was begun for it. -/
def makeGenerator (async : Bool) : Script Val := do
  let _ ← run stepLimit
  let frame := (← MonadState.get).frame
  popFrame
  let default0 := if async then Intrinsic.asyncGeneratorProto else .generatorProto
  let proto ← protoOf frame.callee default0
  allocVal {
    proto := some proto
    kind := if async then .asyncGenerator else .generator (.suspended frame false) }

/-- Calls a function, or makes an object if a class is asked for, and runs to the end of it. -/
def callToEnd (f this : Val) (args : Array Val) (target : Val) : Script Val := do
  match ← begin f this args target true 64 with
  | some v => return v
  | none =>
    match (← MonadState.get).frame.code.kind with
    | .normal => match ← run stepLimit with
      | .finished v => return v
      | _ => return .undefined
    | .generator => makeGenerator false
    | .asyncGenerator => makeGenerator true
    | .async => runAsync

/-- Goes on with a generator: a value, and whether that was the last. -/
def resume (id : Nat) (sent : Resumption) : Script (Val × Bool) := do
  let finish : Script Unit := updateObj id fun o => { o with kind := .generator .finished }
  match (← obj id).kind with
  | .generator (.suspended frame started) =>
    match started, sent with
    | false, .throwing v =>
      finish
      throwVal v
    | false, .returning v =>
      finish
      return (v, true)
    | _, _ =>
      updateObj id fun o => { o with kind := .generator .running }
      pushFrame { frame with entry := true, sent := sent }
      catching (do
          if frame.delegate.isNone then
            -- what `yield` answers, or throws, belongs to the code
            catching (do let _ ← afterYield (!started)) fun v => do
              unwind v ((← MonadState.get).depth + 1)
          match ← run stepLimit with
          | .finished v =>
            finish
            return (v, true)
          | .yielded v =>
            let frame := (← MonadState.get).frame
            popFrame
            updateObj id fun o => { o with kind := .generator (.suspended frame true) }
            return (v, false)
          | _ =>
            popFrame
            return (.undefined, true))
        fun e => do
          finish
          throwVal e
  | .generator .running => throwType "cannot invoke a running generator"
  | .generator .finished =>
    match sent with
    | .next _ => return (.undefined, true)
    | .throwing v => throwVal v
    | .returning v => return (v, true)
  | _ => throwType "not a generator"

/-- Runs a code in a scope to its end. -/
def runCode (code : Code) (scope : Nat) : Script Val := do
  pushFrame { code, scope, callee := .undefined, entry := true }
  match ← run stepLimit with
  | .finished v => return v
  | _ => return .undefined

/-- Runs a text as a program in the global scope. -/
def runProgram (text : String) : Script Val := do
  let number ← compile text {}
  let code := (← MonadState.get).codes.getD number {}
  declareGlobals code false
  runCode code 0

/-- Evaluates a text in the global scope; its lexical declarations end with it. -/
def evaluate (text : String) : Script Val := do
  let number ← compile text { isGlobal := false, file := "<input>" }
  let code := (← MonadState.get).codes.getD number {}
  runCode code (← declareInner code 0)

/-- The text of a function with given parameters and body. -/
def functionText (kind : FunctionKind) (params body : String) : String :=
  let head := match kind with
    | .normal => "(function"
    | .generator => "(function*"
    | .async => "(async function"
    | .asyncGenerator => "(async function*"
  head ++ " anonymous(" ++ params ++ "\n) \x7b\n" ++ body ++ "\n\x7d)"

end Script

/-- Nothing can be asked for. -/
def Calls.none : Calls where
  native _ _ _ _ := throw .exhausted
  call _ _ _ := throw .exhausted
  construct _ _ _ := throw .exhausted
  evaluate _ := throw .exhausted
  makeFunction _ _ _ := throw .exhausted
  resume _ _ := throw .exhausted

/-- The error of calls that nest too deep. -/
def tooDeep {α : Type} : EStateM Abort Machine α :=
  (Script.throwKind .internalError "stack overflow" : Script α) Calls.none

/-- What functions of the machine may ask for, with so many levels of nesting left. -/
def callsAt (library : Array Native) : Nat → Calls
  | 0 => {
    native := fun _ _ _ _ => tooDeep
    call := fun _ _ _ => tooDeep
    construct := fun _ _ _ => tooDeep
    evaluate := fun _ => tooDeep
    makeFunction := fun _ _ _ => tooDeep
    resume := fun _ _ => tooDeep }
  | levels + 1 => {
    native := fun i this args target =>
      (library.getD i default).run this args target (callsAt library levels)
    call := fun f this args => Script.callToEnd f this args .undefined (callsAt library levels)
    construct := fun f args target =>
      Script.callToEnd f .empty args target (callsAt library levels)
    evaluate := fun text => Script.evaluate text (callsAt library levels)
    makeFunction := fun kind params body =>
      Script.evaluate (Script.functionText kind params body) (callsAt library levels)
    resume := fun id sent => Script.resume id sent (callsAt library levels) }

/-- How deep calls from functions of the machine into code may nest. -/
def nestingLimit : Nat := 600

end ScriptHost.ProtoScript
