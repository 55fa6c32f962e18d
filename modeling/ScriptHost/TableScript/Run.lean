import ScriptHost.TableScript.Step

/-!
# Running code

The functions of the machine are given as a table.  They may call back into code, which then runs to
its end before they go on; how deep such calls may nest is bounded, and so is the number of steps.

* `Native` — a function of the machine.
* `Script.run` — runs until a call has ended that something other than code waits for.
* `Script.callToEnd`, `Script.resume` — calls, and turns of coroutines.
* `callsAt` — what functions of the machine may ask for, with so many levels of nesting left.
-/

namespace ScriptHost.TableScript

open Text (Bytes)

/-- A function of the machine: it is given itself and the arguments. -/
structure Native where
  name : String
  run : Nat → Array Val → Script (Array Val)

instance : Inhabited Native := ⟨⟨"", fun _ _ => return #[]⟩⟩

/-- The greatest number of steps of a call. -/
def stepLimit : Nat := 0x10000000000

namespace Script

/-- Makes a step; what it raises goes to the innermost call that catches it. -/
def guarded (act : Script Outcome) : Script Outcome :=
  catching act fun v => do
    noteTrace
    unwind v ((← MonadState.get).stack.callers.length + 1)

/-- Runs until a call has ended that something other than code waits for. -/
def run : Nat → Script Outcome
  | 0 => throw .exhausted
  | fuel + 1 => do
    match ← guarded step with
    | .running => run fuel
    | o => return o

/-- Makes a first step, and goes on from there. -/
def runFrom (first : Script Outcome) : Script Outcome := do
  match ← guarded first with
  | .running => run stepLimit
  | o => return o

/-- Calls a function and answers its results. -/
def callToEnd (f : Val) (args : Array Val) : Script (Array Val) := do
  let depth := (← MonadState.get).depth
  checkNesting (depth + 1)
  pushAbove .entry
  let restore : Script Unit := modify fun m => { m with depth }
  try
    nest
    let outcome ← runFrom (begin (2 * nestingLimit) f args)
    restore
    match outcome with
    | .finished vs => return vs
    | _ => return #[]
  catch e =>
    restore
    throw e

/-! ## Coroutines -/

def setThread (id : Nat) (p : Progress) : Script Unit := modify fun m =>
  { m with threads := m.threads.setIfInBounds id p }

/-- Runs a computation on the stack of a coroutine; afterwards the present one is there again. -/
def onThread (id : Nat) (stack : Stack) (act : Script Rest) : Script Rest := do
  let m ← MonadState.get
  let back : Script Unit := modify fun now => { now with
    stack := m.stack, current := m.current, depth := m.depth
    threads := now.threads.setIfInBounds m.current .running }
  modify fun m => { m with
    stack, current := id, depth := m.depth + 1
    threads := (m.threads.setIfInBounds m.current .normal).setIfInBounds id .running }
  try
    let r ← act
    back
    return r
  catch e =>
    back
    match e with
    | .thrown v =>
      setThread id (.dead (some v))
      return .raised v
    | .exhausted => throw .exhausted

/-- Goes on with a coroutine until it comes to rest. -/
def resume (id : Nat) (args : Array Val) : Script Rest := do
  let m ← MonadState.get
  let refuse (message : String) : Script Rest := return .raised (.ofString message)
  let go (stack : Stack) (first : Script Outcome) : Script Rest := do
    if m.depth + 1 ≥ nestingLimit then refuse "C stack overflow"
    else onThread id stack do
      match ← runFrom first with
      | .finished vs =>
        setThread id (.dead none)
        return .answered vs
      | .yielded vs =>
        setThread id (.suspended (← MonadState.get).stack)
        return .answered vs
      | .running => return .answered #[]
  match m.threads.getD id (.dead none) with
  | .fresh f => go { above := [.entry] } (begin (2 * nestingLimit) f args)
  | .suspended stack => go stack (deliver args)
  | .dead _ => refuse "cannot resume dead coroutine"
  | .running | .normal => refuse "cannot resume non-suspended coroutine"

/-- Ends all activations of the running coroutine, closing their values. -/
def closeFrames : Nat → Option Val → Script (Option Val)
  | 0, e => return e
  | fuel + 1, e => do
    setAbove []
    let e ← if (← frame).marked.isEmpty then pure e
      else do
        match ← closeAll (← frame).marked.length (e.getD .nil) with
        | .nil => pure none
        | v => pure (some v)
    popFrame
    closeFrames fuel e

/-- Ends a suspended coroutine, closing its values. -/
def finish (id : Nat) : Script Rest := do
  match (← MonadState.get).threads.getD id (.dead none) with
  | .dead (some e) =>
    setThread id (.dead none)
    return .raised e
  | .suspended stack =>
    let r ← onThread id stack do
      match ← closeFrames (stack.callers.length + 1) none with
      | some e => return .raised e
      | none => return .answered #[]
    setThread id (.dead none)
    return r
  | _ =>
    setThread id (.dead none)
    return .answered #[]

end Script

/-! ## Nesting -/

/-- Nothing can be asked for. -/
def Calls.none : Calls where
  native _ _ _ := throw .exhausted
  call _ _ := throw .exhausted
  resume _ _ := throw .exhausted
  finish _ := throw .exhausted

/-- What functions of the machine may ask for, with so many levels of nesting left. -/
def callsAt (library : Array Native) : Nat → Calls
  | 0 => Calls.none
  | levels + 1 => {
    native := fun i f args => (library.getD i default).run f args (callsAt library levels)
    call := fun f args => Script.callToEnd f args (callsAt library levels)
    resume := fun id args => Script.resume id args (callsAt library levels)
    finish := fun id => Script.finish id (callsAt library levels) }

/-- More levels than calls can be nested. -/
def callLevels : Nat := 3 * nestingLimit

end ScriptHost.TableScript
