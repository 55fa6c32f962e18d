import ScriptHost.TableScript.Machine
import ScriptHost.TableScript.Operator

/-!
# Errors

An error is any value.  The machine's own errors are texts that begin with the place of the code that is
running; where a function of the machine runs, that is the place of the call.

* `Script.raise` — raises a value.
* `Script.fail` — an error of the code that is running.
* `Script.failCall` — an error of a function of the machine.
* `Script.failArgument`, `Script.failType` — errors about arguments.
* `Machine.traceText` — the active functions as messages show them.
-/

namespace ScriptHost.TableScript

open Text (Bytes)

/-! ## The names of functions -/

namespace Machine

/-- Whether a value is the given function. -/
def isFunction (v : Val) (f : Nat) : Bool :=
  match v with
  | .function id => id == f
  | _ => false

/-- The text key of a table's entry with the given function. -/
def fieldName? (t : Table) (f : Nat) : Option Bytes :=
  t.entries.findSome? fun (k, v) => match k with
    | .str s => if isFunction v f then some s else none
    | _ => none

/-- The name under which a function is found among the loaded libraries. -/
def libraryName? (m : Machine) (f : Nat) : Option Bytes := do
  let found ← (m.tableAt loadedTable).entries.findSome? fun (k, v) => match k, v with
    | .str library, .function id => if id == f then some library else none
    | .str library, .table id =>
      (fieldName? (m.tableAt id) f).map fun s => library ++ .ofString "." ++ s
    | _, _ => none
  let globals := Bytes.ofString "_G."
  some (if found.matchesAt globals 0 then found.slice globals.size found.size else found)

/-! ## Traces -/

/-- The place of a level. -/
def levelPlace : Level → Bytes
  | { code := some (code, line), .. } => code.source ++ .ofString (":" ++ toString line)
  | _ => .ofString "[C]"

/-- What a trace says of the function of a level. -/
def levelName (m : Machine) (l : Level) : Bytes :=
  match l.callee.bind m.libraryName? with
  | some name => .ofString "function '" ++ name ++ .ofString "'"
  | none => match l.origin.words? with
    | some (kind, name) => .ofString (kind ++ " '") ++ name ++ .ofString "'"
    | none => match l.code with
      | some (code, _) =>
        if code.line = 0 then .ofString "main chunk"
        else .ofString "function <" ++ code.source ++ .ofString (":" ++ toString code.line ++ ">")
      | none => .ofString "?"

/-- One line of a trace. -/
def levelLine (m : Machine) (l : Level) : Bytes :=
  .ofString "\n\t" ++ levelPlace l ++ .ofString ": in " ++ m.levelName l
    ++ (if l.isTail then Bytes.ofString "\n\t(...tail calls...)" else Bytes.empty)

/-- The numbers of levels that a long trace shows at its start and at its end. -/
def traceHead : Nat := 10

def traceTail : Nat := 11

/-- Levels as messages show them; the middle of a long trace is left out. -/
def traceText (m : Machine) (levels : List Level) : Bytes :=
  let lines (ls : List Level) : Bytes := Bytes.join (ls.map m.levelLine)
  let heading := Bytes.ofString "stack traceback:"
  let n := levels.length
  if n ≤ traceHead + traceTail + 1 then heading ++ lines levels
  else
    heading ++ lines (levels.take traceHead)
      ++ .ofString ("\n\t...\t(skipping " ++ toString (n - traceHead - traceTail - 1) ++ " levels)")
      ++ lines (levels.drop (n - traceTail))

end Machine

namespace Script

/-! ## Raising -/

/-- Raises a value. -/
def raise {α : Type} (v : Val) : Script α := throw (.thrown v)

/-- Runs a computation, and another one on what it raises. -/
def catching {α : Type} (act : Script α) (handler : Val → Script α) : Script α :=
  try act
  catch e => match e with
    | .thrown v => handler v
    | .exhausted => throw .exhausted

/-- The active functions, the latest first. -/
def levels : Script (List Level) := return (← MonadState.get).stack.levels

/-- The beginning of a message: the place of a level if its function is code. -/
def placeOf : Option Level → Bytes
  | some { code := some (code, line), .. } =>
    code.source ++ .ofString (":" ++ toString line ++ ": ")
  | _ => Bytes.empty

/-- An error of the code that is running. -/
def failBytes {α : Type} (message : Bytes) : Script α := do
  raise (.str (placeOf (← levels).head? ++ message))

/-- An error of the code that is running. -/
def fail {α : Type} (message : String) : Script α := failBytes (.ofString message)

/-- An error of a function of the machine, at the place of its call. -/
def failCallBytes {α : Type} (message : Bytes) : Script α := do
  raise (.str (placeOf (← levels)[1]? ++ message))

/-- An error of a function of the machine, at the place of its call. -/
def failCall {α : Type} (message : String) : Script α := failCallBytes (.ofString message)

/-! ## Arguments -/

/-- An error about an argument, counted from 1. -/
def failArgument {α : Type} (index : Nat) (message : String) : Script α := do
  let m ← MonadState.get
  let level := (← levels).headD { callee := none, code := none }
  match level.origin with
  | .method name =>
    if index = 1 then
      failCallBytes (.ofString "calling '" ++ name ++ .ofString ("' on bad self (" ++ message ++ ")"))
    else
      failCallBytes (.ofString ("bad argument #" ++ toString (index - 1) ++ " to '") ++ name
        ++ .ofString ("' (" ++ message ++ ")"))
  | origin =>
    let name := match origin.words? with
      | some (_, name) => name
      | none => (level.callee.bind m.libraryName?).getD (.ofString "?")
    failCallBytes (.ofString ("bad argument #" ++ toString index ++ " to '") ++ name
      ++ .ofString ("' (" ++ message ++ ")"))

/-- The type of an argument as messages show it. -/
def argumentType (args : Array Val) (i : Nat) : Script String := do
  match args[i]? with
  | none => return "no value"
  | some v => return (← MonadState.get).typeNameOf v

/-- An error about the type of an argument, counted from 0. -/
def failType {α : Type} (args : Array Val) (i : Nat) (expected : String) : Script α := do
  failArgument (i + 1) (expected ++ " expected, got " ++ (← argumentType args i))

/-! ## Operands -/

/-- What a message says of where an operand came from. -/
def originText (o : Origin) : Bytes :=
  match o.words? with
  | some (kind, name) => .ofString (" (" ++ kind ++ " '") ++ name.untilZero ++ .ofString "')"
  | none => Bytes.empty

/-- An error about the type of an operand. -/
def failOperand {α : Type} (v : Val) (origin : Origin) (doing : String) : Script α := do
  let type := (← MonadState.get).typeNameOf v
  failBytes (.ofString ("attempt to " ++ doing ++ " a " ++ type ++ " value") ++ originText origin)

/-- An error about the operands of a comparison. -/
def failCompare {α : Type} (a b : Val) : Script α := do
  let m ← MonadState.get
  let s := m.typeNameOf a
  let t := m.typeNameOf b
  if s == t then fail ("attempt to compare two " ++ s ++ " values")
  else fail ("attempt to compare " ++ s ++ " with " ++ t)

/-- An error about the operands of an operation. -/
def failArith {α : Type} (op : ArithOp) (a b : Val) (aOrigin bOrigin : Origin) : Script α := do
  if op.isBitwise then
    if a.isNumber && b.isNumber then
      let origin := if a.exactInteger?.isNone then aOrigin else bOrigin
      failBytes (.ofString "number" ++ originText origin
        ++ .ofString " has no integer representation")
    else if a.isNumber then failOperand b bOrigin "perform bitwise operation on"
    else failOperand a aOrigin "perform bitwise operation on"
  else if a.isNumber then failOperand b bOrigin "perform arithmetic on"
  else failOperand a aOrigin "perform arithmetic on"

end Script

end ScriptHost.TableScript
