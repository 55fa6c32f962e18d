import ScriptHost.Engine.Interpreted
import ScriptHost.ProtoScript.Library
import ScriptHost.ProtoScript.Quoted
import ScriptHost.ProtoScript.Report

/-!
# ProtoScript as a language of engines

Between calls of the host nothing runs: a call that was broken off leaves its objects and variables
behind, and no activations.

* `Machine.serve` — makes one call of the host on a machine.
* `interpreter` — the language for engines.
-/

namespace ScriptHost.ProtoScript

/-- The machine when nothing runs. -/
def Machine.idle (m : Machine) : Machine :=
  { m with frame := {}, natives := [], callers := [], depth := 0 }

/-- The failure of a computation that takes more steps than are admitted. -/
def endless : Failure := .refused (.failure "the script does not end")

/-- What the script or the conversion of its values made of a call. -/
abbrev Answer (α : Type) := Except Failure α

/-- Makes one call of the host on a machine.  A thrown value that nothing caught is reported. -/
def Machine.serve {α : Type} (act : Script (Answer α)) (m : Machine) (host : Host) :
    Answer α × Machine × Host :=
  let finish {β : Type} (answer : Answer β) (m : Machine) : Answer β × Machine × Host :=
    (answer, m.idle, m.host)
  match ({ m with host } : Machine).perform act with
  | .ok answer m => finish answer m
  | .error .exhausted m => finish (.error endless) m
  | .error (.thrown v) m =>
    match m.idle.perform (Script.report v) with
    | .ok report m => finish (.error (.raised report)) m
    | .error _ m => finish (.error endless) m

namespace Script

/-- A value for the host, or the refusal of the conversion. -/
def toHost (v : Val) : Script (Answer Value) := do
  match ← exportVal v with
  | .ok w => return .ok w
  | .error reason => return .error (.refused (.conversion reason))

/-- Makes a value of the host a global variable. -/
def bindGlobal (name : String) (v : Value) : Script Unit := do
  putName Intrinsic.global.val name (← importVal v)

/-- A global function and converted arguments. -/
def prepareCall (name : String) (args : List Value) : Script (Answer (Val × Array Val)) := do
  let f ← getName Intrinsic.global.val name
  if !(← MonadState.get).isCallable f then
    return .error (.refused (.unknownName name))
  return .ok (f, (← importItems args).toArray)

end Script

/-- The text of the failure to make a global variable. -/
def bindingFailure : String := "Exception generated by QuickJS"

/-- Makes a value of the host a global variable; what a setter throws is not reported. -/
def bindGlobal (name : String) (v : Value) : Running Machine NativeError Unit := fun m host =>
  match Machine.serve (do Script.bindGlobal name v; return .ok ()) m host with
  | (.ok _, m, host) => (.ok (), m, host)
  | (.error (.refused e), m, host) => (.error e, m, host)
  | (.error (.raised _), m, host) => (.error (.failure bindingFailure), m, host)

/-- The failure of a text that holds a NUL: texts are handed to the machine up to their first NUL, and
one that would not arrive whole is refused. -/
def severed (text : String) : Option Failure :=
  let before := text.toList.takeWhile (· ≠ '\x00')
  if before.length = text.toList.length then none
  else some (.refused (.failure ("String contained internal null bytes: nul byte found in provided data "
    ++ "at position: " ++ toString (String.ofList before).utf8ByteSize)))

/-- Runs a text unless it holds a NUL. -/
def Machine.serveText {α : Type} (text : String) (act : Script (Answer α)) (m : Machine)
    (host : Host) : Answer α × Machine × Host :=
  match severed text with
  | some failure => (.error failure, m, host)
  | none => m.serve act host

/-- The language for engines.  A prepared call is a function with its arguments. -/
def interpreter : Interpreter Machine (Val × Array Val) where
  language := "javascript"
  initial := Machine.initial
  assignment := assignment
  bind := bindGlobal
  evaluate text := Machine.serveText text do Script.toHost (← Script.runProgram text)
  execute text := Machine.serveText text do
    let _ ← Script.runProgram text
    return .ok ()
  global name := Machine.serve do Script.toHost (← Script.getName Intrinsic.global.val name)
  prepare name args := Machine.serve (Script.prepareCall name args)
  call := fun (f, args) => Machine.serve do Script.toHost (← Script.call f .undefined args)

end ScriptHost.ProtoScript
