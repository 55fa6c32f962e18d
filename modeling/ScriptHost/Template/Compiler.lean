import ScriptHost.Handle
import ScriptHost.Template.Embedded
import ScriptHost.Template.Settings

/-!
# Template compilers

A compiler holds a session in which a template library is loaded, and the handle of that library.  It
is ready exactly while it holds them; before and afterwards it refuses to compile.

* `Compiler.load` — from the first state to readiness, or not at all.
* `Compiler.configure`, `Compiler.compile` — calls of the library.
* `Compiler.close` — to the last state, from every state.
-/

namespace ScriptHost.Template

/-- The language of the embedded library. -/
def libraryLanguage : String := "jscript"

/-- A template compiler. -/
inductive Compiler (σ δ : Type) where
  | uninitialized
  | ready (handle : Handle δ) (session : Session σ)
  | closed

namespace Compiler

variable {σ δ : Type}

/-- The refusal of everything that needs a loaded library. -/
def notOpen : HostError := .disposed "template compiler"

def isReady : Compiler σ δ → Bool
  | .ready _ _ => true
  | _ => false

/-- The name of the state. -/
def stateName : Compiler σ δ → String
  | .uninitialized => "Uninitialized"
  | .ready _ _ => "Ready"
  | .closed => "Closed"

/-- The debug text of a compiler. -/
def debugText (c : Compiler σ δ) : String :=
  "TemplateCompiler \x7b state: " ++ Registry.quoted c.stateName ++ " \x7d"

/-- Starts a session for a language and loads a library in it.  After a failure nothing is open. -/
def load (E : Engine σ δ) (registry : Registry σ) (language library : String)
    (c : Compiler σ δ) (host : Host) : Except HostError Unit × Compiler σ δ × Host :=
  match c with
  | .uninitialized =>
    match Session.start E registry language .wide host with
    | (.error e, host) => (.error e, c, host)
    | (.ok s, host) => match s.parseModule E library host with
      | (.error e, s, host) => (.error e, c, (s.close E host).2)
      | (.ok h, s, host) => (.ok (), .ready h s, host)
  | _ => (.error notOpen, c, host)

/-- Loads the embedded library. -/
def loadEmbedded (E : Engine σ δ) (registry : Registry σ) :
    Compiler σ δ → Host → Except HostError Unit × Compiler σ δ × Host :=
  load E registry libraryLanguage librarySource

/-- Calls a function of the library. -/
def invoke (E : Engine σ δ) (name : String) (arg : Value) (c : Compiler σ δ) (host : Host) :
    Except HostError Value × Compiler σ δ × Host :=
  match c with
  | .ready h s =>
    let (answer, s, host) := h.invoke E s name [arg] host
    (answer, .ready h s, host)
  | _ => (.error notOpen, c, host)

/-- Replaces the delimiters that later templates are compiled with. -/
def configure (E : Engine σ δ) (settings : Settings) (c : Compiler σ δ) (host : Host) :
    Except HostError Unit × Compiler σ δ × Host :=
  let (answer, c, host) := c.invoke E "setTemplateSettings" settings.toValue host
  (answer.map fun _ => (), c, host)

/-- The source that a library answers. -/
def sourceOf : Value → Except HostError String
  | .text source => .ok source
  | v => .error (.nativeCallFailure (.conversion
      ("compile returned " ++ v.typeName ++ ", expected string")))

/-- Compiles a template to the source of its function. -/
def compile (E : Engine σ δ) (template : String) (c : Compiler σ δ) (host : Host) :
    Except HostError String × Compiler σ δ × Host :=
  let (answer, c, host) := c.invoke E "compile" (.text template) host
  (answer.bind sourceOf, c, host)

/-- Gives up the handle, and then the session. -/
def close (E : Engine σ δ) (c : Compiler σ δ) (host : Host) : Compiler σ δ × Host :=
  match c with
  | .ready h s =>
    let (_, host) := h.close E host
    (.closed, (s.close E host).2)
  | _ => (.closed, host)

end Compiler

end ScriptHost.Template
