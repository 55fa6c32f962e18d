import ScriptHost.ProtoScript.Interpreter
import ScriptHost.Template.Embedded
import ScriptHost.Template.Shifted
import ScriptHost.Template.Source

/-!
# The template library as a language of engines

An engine that knows the embedded library by heart.  Once the library is loaded, its state is the
delimiters in force, and the two functions that hosts call are answered directly.  A generated
function is only checked, by parsing it.

All else is left to the scripts themselves: other texts and other calls, and templates whose code does
not stay inside the generated function, so that the check would run it.  From then on a machine with
the library loaded does the work.

* `cutText` — what the library takes a text for.
* `checkSource` — whether a body makes a function, and nothing else.
* `Library.compile`, `Library.configure` — the direct answers.
* `Library.interpreter` — the language.
-/

namespace ScriptHost.Template

open ProtoScript (Answer Machine Script Val)
open Text (Units)

/-! ## Places in the library -/

/-- The text before the first occurrence of a part. -/
def before (text part : String) : String := (text.splitOn part).headD ""

/-- Line and column of the first occurrence of a part, from 0. -/
def placeOf (text part : String) : Nat × Nat :=
  let lines := (before text part).splitOn "\n"
  (lines.length - 1, (lines.getLastD "").length)

/-- Where the adapter makes an expression of a setting. -/
def settingPlace : Nat × Nat := placeOf librarySource "new RegExp(pattern"

/-- Where the expression for all tags is made: the column of its first line, the line of its last. -/
def matcherPlace : Nat × Nat :=
  ((placeOf librarySource "].join('|') + '|$', 'g')").1, (placeOf librarySource "new RegExp([").2)

/-- Where the text before a match is taken. -/
def literalPlace : Nat × Nat := placeOf librarySource "slice(index"

/-- The report of a text that cannot be read, at a place that counts from 0. -/
def syntaxReport (message : String) (place : Nat × Nat) : ErrorReport where
  sourceName := "SyntaxError"
  code := errorCode "SyntaxError"
  description := message
  line := place.1
  column := place.2
  sourceText := none

/-- The report of an object in the place of a number. -/
def numberReport (place : Nat × Nat) : ErrorReport where
  sourceName := "TypeError"
  code := errorCode "TypeError"
  description := "toPrimitive"
  line := place.1
  column := place.2
  sourceText := none

/-! ## The check -/

/-- Whether a program does nothing but make one function. -/
def makesOneFunction (codes : Array ProtoScript.Code) : Bool :=
  match codes.back? with
  | none => false
  | some c => c.vars.isEmpty && c.functions.isEmpty && c.lexicals.isEmpty &&
    match c.instrs.toList with
    | [.closure _, .setCompletion, .getCompletion, .returnValue] => true
    | _ => false

/-- What the check of a body finds. -/
inductive Check where
  | function
  | syntaxFault (message : String) (place : Nat × Nat)
  /-- The text would do something before it makes a function, or instead of it. -/
  | program
deriving DecidableEq

/-- Parses the function of a body. -/
def checkSource (body : Units) : Check :=
  let text := Script.functionText .normal "obj,_" body.toString
  match ProtoScript.Program.parse text { isGlobal := false, file := "<input>" } with
  | .error e => .syntaxFault e.message (e.line - 1, e.column - 1)
  | .ok codes => if makesOneFunction codes then .function else .program

/-! ## Direct answers -/

/-- What compiling a template comes to. -/
inductive Compiled where
  | source (text : Units)
  | fault (report : ErrorReport)
  /-- The scripts have to run. -/
  | undecided

/-- A text as literal text and tags.  The delimiters should have one group each. -/
def cutText (r : Regex) (text : Units) : Except ErrorReport (List Piece) :=
  if r.groupCount ≠ 4 then
    if missesPlace r then .error (numberReport literalPlace) else .ok (shiftedPieces r text)
  else .ok (pieces r text)

/-- Compiles a template. -/
def compileText (d : Delimiters) (text : String) : Compiled :=
  match d.matcher with
  | .error e => .fault (syntaxReport e matcherPlace)
  | .ok r => match cutText r (Units.ofString text) with
    | .error report => .fault report
    | .ok ps => match checkSource (bodySource ps) with
      | .function => .source (functionSource ps)
      | .syntaxFault message place => .fault (syntaxReport message place)
      | .program => .undecided

namespace Library

/-! ## States -/

/-- What the engine knows. -/
inductive State where
  /-- No text has run. -/
  | empty
  /-- The library is loaded and has these delimiters. -/
  | loaded (d : Delimiters)
  /-- The scripts run on a machine. -/
  | running (m : Machine)

/-- A prepared call. -/
inductive Call where
  | compile (text : String)
  | configure (s : Settings)
  | script (f : Val) (args : Array Val)

/-- The settings that hold all three delimiters. -/
def settingsOf (d : Delimiters) : Settings := ⟨some d.interpolate, some d.evaluate, some d.escape⟩

/-- A step of the machine whose answer does not matter. -/
def settle {α : Type} (act : Running Machine Failure α) (m : Machine) (host : Host) : Machine :=
  (act m host).2.1

/-- Calls a global function of a machine. -/
def callGlobal (name : String) (args : List Value) : Running Machine Failure Value := fun m host =>
  match ProtoScript.interpreter.prepare name args m host with
  | (.ok call, m, host) => ProtoScript.interpreter.call call m host
  | (.error e, m, host) => (.error e, m, host)

/-- A machine that knows what a state knows. -/
def State.machine (host : Host) : State → Machine
  | .empty => Machine.initial
  | .loaded d =>
    let m := settle (ProtoScript.interpreter.execute librarySource) Machine.initial host
    settle (callGlobal "setTemplateSettings" [(settingsOf d).toValue]) m host
  | .running m => m

/-- Leaves a call to the scripts. -/
def scripted {ε α : Type} (act : Running Machine ε α) : Running State ε α := fun s host =>
  let (answer, m, host) := act (s.machine host) host
  (answer, .running m, host)

/-! ## Calls -/

/-- Loads the library, or runs another text. -/
def execute (text : String) : Running State Failure Unit := fun s host =>
  match s with
  | .empty =>
    if text = librarySource then (.ok (), .loaded .standard, host)
    else scripted (ProtoScript.interpreter.execute text) s host
  | _ => scripted (ProtoScript.interpreter.execute text) s host

/-- A setting in an object; `none` if it is no text. -/
def setting? (v : Value) (key : String) : Option (Option String) :=
  match v.get? key with
  | none => some none
  | some (.text s) => some (some s)
  | some _ => none

/-- The settings that an argument holds. -/
def settings? : List Value → Option Settings
  | [.object entries] => do
    let v := Value.object entries
    return ⟨← setting? v "interpolate", ← setting? v "evaluate", ← setting? v "escape"⟩
  | _ => none

/-- The call of a function of the library that is answered directly. -/
def call? (name : String) (args : List Value) : Option Call :=
  match name, args with
  | "compile", [.text text] => some (.compile text)
  | "setTemplateSettings", args => (settings? args).map .configure
  | _, _ => none

/-- Finds a function. -/
def prepare (name : String) (args : List Value) : Running State Failure Call := fun s host =>
  let script : Running State Failure Call := fun s host =>
    match scripted (ProtoScript.interpreter.prepare name args) s host with
    | (.ok (f, args), s, host) => (.ok (.script f args), s, host)
    | (.error e, s, host) => (.error e, s, host)
  match s with
  | .loaded _ => match call? name args with
    | some call => (.ok call, s, host)
    | none => script s host
  | _ => script s host

/-- Compiles a template with the delimiters in force. -/
def compile (d : Delimiters) (text : String) : Running State Failure Value := fun s host =>
  match compileText d text with
  | .source u => match Script.exportUnits u with
    | .ok v => (.ok v, s, host)
    | .error reason => (.error (.refused (.conversion reason)), s, host)
  | .fault report => (.error (.raised report), s, host)
  | .undecided => scripted (callGlobal "compile" [.text text]) s host

/-- Replaces delimiters. -/
def configure (d : Delimiters) (settings : Settings) : Running State Failure Value :=
  fun _ host => match d.configure settings with
    | (d, none) => (.ok .undefined, .loaded d, host)
    | (d, some e) => (.error (.raised (syntaxReport e settingPlace)), .loaded d, host)

/-- Makes a call. -/
def call : Call → Running State Failure Value
  | .script f args, s, host => scripted (ProtoScript.interpreter.call (f, args)) s host
  | .compile text, s, host => match s with
    | .loaded d => compile d text s host
    | _ => scripted (callGlobal "compile" [.text text]) s host
  | .configure settings, s, host => match s with
    | .loaded d => configure d settings s host
    | _ => scripted (callGlobal "setTemplateSettings" [settings.toValue]) s host

/-- The language: that of the scripts, with the library known by heart. -/
def interpreter : Interpreter State Call where
  language := ProtoScript.interpreter.language
  initial := .empty
  assignment := ProtoScript.interpreter.assignment
  bind name v := scripted (ProtoScript.interpreter.bind name v)
  evaluate text := scripted (ProtoScript.interpreter.evaluate text)
  execute := execute
  global name := scripted (ProtoScript.interpreter.global name)
  prepare := prepare
  call := call

end Library

end ScriptHost.Template
