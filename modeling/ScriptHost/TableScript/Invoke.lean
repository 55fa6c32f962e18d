import ScriptHost.TableScript.Marshal
import ScriptHost.TableScript.Parser.Statement

/-!
# Calls

A call of a script function begins a new activation, whose caller waits.  Any other function is run at
once and its results are delivered to what waits for them.

* `Outcome` — what came of a step.
* `Script.begin` — begins a call.
* `Script.deliver` — hands results to what waits for them.
* `Script.leave` — ends an activation.
-/

namespace ScriptHost.TableScript

open Text (Bytes)

/-- What came of a step. -/
inductive Outcome where
  | running
  /-- A call has ended that something other than code waits for. -/
  | finished (vs : Array Val)
  /-- The coroutine suspends itself. -/
  | yielded (vs : Array Val)

/-- The greatest number of registers of all activations. -/
def stackLimit : Nat := 1000000

/-- The greatest number of calls that are nested in something other than code. -/
def nestingLimit : Nat := 200

namespace Script

/-- Goes on with the next instruction. -/
def goOn : Script Outcome := do
  updateFrame fun f => { f with pc := f.pc + 1 }
  return .running

/-- Goes on with another instruction. -/
def goTo (pc : Nat) : Script Outcome := do
  updateFrame fun f => { f with pc }
  return .running

/-! ## Nesting -/

/-- Fails if no more calls may be nested. -/
def checkNesting (depth : Nat) : Script Unit := do
  if depth = nestingLimit then fail "C stack overflow"

/-- One more call is nested. -/
def nest : Script Unit := modify fun m => { m with depth := m.depth + 1 }

def unnest : Script Unit := modify fun m => { m with depth := m.depth - 1 }

/-- Changes what waits above the present activation. -/
def setAbove (above : List Pending) : Script Unit := updateStack fun s => { s with above }

/-- Something waits above the present activation. -/
def pushAbove (p : Pending) : Script Unit := updateStack fun s => { s with above := p :: s.above }

/-- Runs a computation as a function of the machine. -/
def asNative {α : Type} (f : Nat) (act : Script α) : Script α := do
  let above := (← MonadState.get).stack.above
  setAbove (.native f :: above)
  let r ← act
  setAbove above
  return r

/-! ## Results -/

/-- Hands results to the code. -/
def land (vs : Array Val) : Script Outcome := do
  match (← frame).landing with
  | .drop => goOn
  | .first dst =>
    initRegister dst (vs.getD 0 .nil)
    goOn
  | .fixed dst count =>
    initRegisters dst count vs
    goOn
  | .opened =>
    updateFrame fun f => { f with openValues := vs }
    goOn
  | .truth negate dst =>
    initRegister dst (.bool ((vs.getD 0 .nil).isTrue != negate))
    goOn
  | .piece dst left =>
    initRegister (dst + left - 1) (vs.getD 0 .nil)
    updateFrame fun f => { f with joining := some left }
    return .running
  | .again => return .running

/-- Hands results to what waits above an activation, or to its code. -/
def deliverTo : List Pending → Array Val → Script Outcome
  | [], vs => do
    setAbove []
    land vs
  | .guarded _ _ :: rest, vs => do
    unnest
    deliverTo rest (#[.bool true] ++ vs)
  | .entry :: rest, vs => do
    setAbove rest
    return .finished vs
  | .native _ :: rest, vs => deliverTo rest vs

/-- Hands results to what waits for them. -/
def deliver (vs : Array Val) : Script Outcome := do
  deliverTo (← MonadState.get).stack.above vs

/-! ## Activations -/

/-- Ends the present activation. -/
def popFrame : Script Unit := modify fun m =>
  let s := m.stack
  match s.callers with
  | [] => { m with stack := { s with frame := {}, above := [] } }
  | a :: rest =>
    { m with
      depth := if s.frame.isNested then m.depth - 1 else m.depth
      stack := {
        frame := a.frame, above := a.above, callers := rest
        size := s.size - (s.frame.code.frameSize + 1) } }

/-- Whether the code makes a call by something other than a call instruction. -/
def isNestedCall : Script Bool := do
  let s := (← MonadState.get).stack
  match s.above, s.frame.code.instrs.getD s.frame.pc .nop with
  | _ :: _, _ => return false
  | [], .call .. => return false
  | [], .tailCall .. => return false
  | [], _ => return true

/-- Begins the activation of a script function. -/
def pushFrame (f code : Nat) (upvalues : Array Nat) (args : Array Val) (isNested isTail : Bool) :
    Script Unit := do
  let m ← MonadState.get
  let code := m.codeAt code
  let size := m.stack.size + code.frameSize + 1
  if size > stackLimit then fail "stack overflow"
  if isNested then
    checkNesting (m.depth + 1)
    nest
  let given := args.extract 0 code.paramCount
  let regs := given ++ Array.replicate (code.frameSize - given.size) Val.nil
  let varargs := if code.isVararg then args.extract code.paramCount args.size else #[]
  updateStack fun s => {
    frame := { code, callee := some f, regs, upvalues, varargs, isTail, isNested }
    above := []
    callers := ⟨s.frame, s.above⟩ :: s.callers
    size }

/-- The number of calls in something other than code that the running coroutine is in. -/
def entryCount : Script Nat := do
  let s := (← MonadState.get).stack
  let count (ps : List Pending) : Nat := (ps.filter fun
    | .entry => true
    | _ => false).length
  return s.callers.foldl (fun n a => n + count a.above) (count s.above)

/-- Finds the function that a call calls: a value that is no function is handed to the one that its
metatable names. -/
def resolveCallee : Nat → Val → Array Val → Script (Nat × Array Val)
  | 0, _, _ => fail "C stack overflow"
  | fuel + 1, f, args => do
    match f with
    | .function id => return (id, args)
    | v =>
      let m ← MonadState.get
      match m.handler v .call with
      | .nil =>
        let s := m.stack
        let origin := if s.above.isEmpty then Stack.calls s.frame else .unknown
        failOperand v origin "call"
      | handler => resolveCallee fuel handler (#[v] ++ args)

/-! ## Calls -/

/-- Runs a function that is no script function. -/
def runNative (f : Nat) (callee : Callee) (args : Array Val) : Script (Array Val) := asNative f do
  match callee with
  | .native index _ => fun calls => calls.native index f args
  | .host h => return #[← callHost h args]
  | _ => return #[]

/-- Suspends the running coroutine. -/
def suspend (f : Nat) (args : Array Val) : Script Outcome := do
  if (← MonadState.get).current = 0 then
    asNative f (fail "attempt to yield from outside a coroutine")
  if (← entryCount) > 1 then asNative f (fail "attempt to yield across a C-call boundary")
  return .yielded args

/-- Begins a call whose errors are caught. -/
def pushGuard (f : Nat) (handler : Option Val) : Script Unit := do
  pushAbove (.guarded f handler)
  nest
  checkNesting (← MonadState.get).depth

/-- Begins a call.  Errors of a protected call itself belong to the function that makes it. -/
def begin : Nat → Val → Array Val → Script Outcome
  | 0, _, _ => fail "C stack overflow"
  | fuel + 1, f, args => do
    let (id, args) ← resolveCallee nestingLimit f args
    match (← MonadState.get).functions.getD id (.native 0 #[]) with
    | .script code upvalues =>
      pushFrame id code upvalues args (← isNestedCall) false
      return .running
    | .protectedCall =>
      if args.isEmpty then asNative id (failArgument 1 "value expected")
      pushGuard id none
      begin fuel (args.getD 0 .nil) (args.extract 1 args.size)
    | .guardedCall =>
      let handler := args.getD 1 .nil
      match handler with
      | .function _ => pure ()
      | _ => asNative id (failType args 1 "function")
      pushGuard id (some handler)
      begin fuel (args.getD 0 .nil) (args.extract 2 args.size)
    | .suspension => suspend id args
    | callee => deliver (← runNative id callee args)

/-- Calls from code: the results land where they are told to. -/
def callFrom (f : Val) (args : Array Val) (landing : Landing) : Script Outcome := do
  updateFrame fun frame => { frame with landing }
  begin (2 * nestingLimit) f args

/-- Ends the present activation with results. -/
def leave (vs : Array Val) : Script Outcome := do
  popFrame
  deliver vs

/-! ## Texts -/

/-- Adds translated codes; the number of the last one. -/
def addCodes (codes : Array Code) : Script Nat := modifyGet fun m =>
  (m.codes.size + codes.size - 1, { m with codes := m.codes ++ codes })

/-- The function of a text, with the table of global variables; or the message of what is wrong with
it. -/
def load (text source : Bytes) (environment : Val) : Script (Except SyntaxFault Val) := do
  let m ← MonadState.get
  match compile text source m.codes.size m.depth with
  | .error fault => return .error fault
  | .ok codes =>
    let code ← addCodes codes
    let cell ← newCell environment
    return .ok (← newFunction (.script code #[cell]))

end Script

end ScriptHost.TableScript
