import ScriptHost.Engine.Interpreted
import ScriptHost.TableScript.Library
import ScriptHost.TableScript.Report

/-!
# TableScript as a language of engines

Between calls of the host nothing runs: a call that was broken off leaves its tables and variables
behind, and no activations.

* `Machine.serve` — makes one call of the host on a machine.
* `interpreter` — the language for engines.
-/

namespace ScriptHost.TableScript

open Text (Bytes)

/-- The machine when nothing runs. -/
def Machine.idle (m : Machine) : Machine :=
  { m with stack := {}, current := 0, depth := 0, trace := none }

/-- The failure of a computation that takes more steps than are admitted. -/
def endless : Failure := .refused (.failure "the script does not end")

/-- What the script or the conversion of its values made of a call. -/
abbrev Answer (α : Type) := Except Failure α

/-! ## Errors -/

/-- The kinds of errors in messages. -/
def runtimeKind : String := "runtime error"

def syntaxKind : String := "syntax error"

/-- An error message with its kind. -/
def messageOf (kind : String) (message : Bytes) : String := kind ++ ": " ++ message.toString

/-- What an error shows itself as, with the functions that were active. -/
def errorText (v : Val) (trace : Bytes) : Script String := do
  match v with
  | .failure _ => return (← Builtin.displayText v).toString
  | _ =>
    let shown := (← Builtin.displayText v).untilZero
    return messageOf runtimeKind (shown ++ .ofString "\n" ++ trace)

/-- The text of an error that nothing caught. -/
def Machine.describe (m : Machine) (v : Val) : Except Unit (String × Machine) :=
  let trace := m.trace.getD Bytes.empty
  match m.idle.perform (errorText v trace) with
  | .ok text m => .ok (text, m.idle)
  | .error (.thrown _) m =>
    .ok (messageOf runtimeKind (.ofString "error in error handling"), m.idle)
  | .error .exhausted _ => .error ()

/-- Makes one call of the host on a machine.  `failed` is what becomes of an error that nothing
caught, given its text. -/
def Machine.serve {ε α : Type} (failed : String → ε) (endless : ε) (act : Script (Except ε α))
    (m : Machine) (host : Host) : Except ε α × Machine × Host :=
  match ({ m with host } : Machine).perform act with
  | .ok answer m => (answer, m.idle, m.host)
  | .error .exhausted m => (.error endless, m.idle, m.host)
  | .error (.thrown v) m =>
    match m.describe v with
    | .ok (text, m) => (.error (failed text), m, m.host)
    | .error _ => (.error endless, m.idle, m.host)

/-- Makes one call of the host on a machine; an error is reported. -/
def Machine.serveReporting {α : Type} (act : Script (Answer α)) : Running Machine Failure α :=
  Machine.serve (fun text => .raised (faultReport runtimeKind text)) endless act

namespace Script

/-! ## Texts -/

/-- The failure of a text that cannot be translated.  Nesting that is too deep is no error of the
text. -/
def syntaxFailure (fault : SyntaxFault) : Failure :=
  let kind := if fault.isOverflow then runtimeKind else syntaxKind
  .raised (faultReport kind (messageOf kind fault.message))

/-- The function of a text from the host. -/
def loadProgram (text : Bytes) : Script (Except SyntaxFault Val) :=
  load text (.ofString chunkName) (.table globalTable)

/-- The function of a text that is an expression if it can be one. -/
def loadExpression (text : Bytes) : Script (Except SyntaxFault Val) := do
  -- a text in binary form is never an expression
  if text.byteAt 0 == 0x1b then loadProgram text
  else match ← loadProgram (.ofString "return " ++ text) with
    | .ok f => return .ok f
    | .error _ => loadProgram text

/-- A value for the host, or the refusal of the conversion. -/
def toHost (v : Val) : Script (Answer Value) := do
  match (← MonadState.get).exportVal v with
  | .ok w => return .ok w
  | .error reason => return .error (.refused (.conversion reason))

/-- Runs a text and answers its first value. -/
def evaluate (text : String) : Script (Answer Value) := do
  match ← loadExpression (.ofString text) with
  | .error fault => return .error (syntaxFailure fault)
  | .ok f => toHost (← callOne f #[])

/-- Runs a text. -/
def execute (text : String) : Script (Answer Unit) := do
  match ← loadProgram (.ofString text) with
  | .error fault => return .error (syntaxFailure fault)
  | .ok f =>
    let _ ← call f #[]
    return .ok ()

/-! ## Variables -/

/-- Uses a variable for the host, which is one of the active functions meanwhile. -/
def asHost {α : Type} (act : Script α) : Script α := asNative Setup.hostIndex act

/-- A global variable, as the metatable of all variables has it. -/
def globalVariable (name : String) : Script Val :=
  asHost (getIndex (.table globalTable) (.ofString name))

/-- Assigns to a global variable. -/
def setGlobalVariable (name : String) (v : Val) : Script Unit :=
  asHost (setIndex (.table globalTable) (.ofString name) v)

/-- A global function and converted arguments. -/
def prepareCall (name : String) (args : List Value) : Script (Answer (Val × Array Val)) := do
  match ← globalVariable name with
  | .function f => return .ok (.function f, (← importItems args).toArray)
  | _ => return .error (.refused (.unknownName name))

end Script

/-- Makes a value of the host a global variable. -/
def bindGlobal (name : String) (v : Value) : Running Machine NativeError Unit :=
  Machine.serve NativeError.failure (.failure "the script does not end") do
    Script.setGlobalVariable name (← Script.importVal v)
    return .ok ()

/-- A statement that assigns the value of an expression to a global variable. -/
def assignment (name expression : String) : String :=
  name ++ " = (function() return " ++ expression ++ "\nend)()"

/-- The language for engines.  A prepared call is a function with its arguments. -/
def interpreter : Interpreter Machine (Val × Array Val) where
  language := "lua"
  initial := Machine.initial
  assignment := assignment
  bind := bindGlobal
  evaluate text := Machine.serveReporting (Script.evaluate text)
  execute text := Machine.serveReporting (Script.execute text)
  global name := Machine.serveReporting do Script.toHost (← Script.globalVariable name)
  prepare name args := Machine.serveReporting (Script.prepareCall name args)
  call := fun (f, args) => Machine.serveReporting do Script.toHost (← Script.callOne f args)

end ScriptHost.TableScript
