import ScriptHost.Bundle
import ScriptHost.FileSystem
import ScriptHost.Languages
import ScriptHost.Template.Compiler
import ScriptHost.Text.Case

/-!
# Tasks

A task compiles template files, in order, to one bundle and writes it to its output file.  It stops
at the first failure, and the output file is written only when everything else has succeeded.

* `Task.validate` — what can be refused without looking at any file.
* `Task.render` — the text of the bundle.
* `Task.run` — renders and writes.
-/

namespace ScriptHost

/-- What to compile, and to where. -/
structure Task where
  sources : List String
  output : String
  /-- The namespace; an empty one stands for the default. -/
  ns : String
  settings : Template.Settings
deriving Inhabited

/-- Why a task fails. -/
inductive TaskError where
  | noSources
  | noOutput
  | outputIsSource (output : String)
  | io (path : String) (error : IoError)
  | bundle (error : BundleError)
  /-- A template that does not compile. -/
  | template (path : String) (error : HostError)
  | host (error : HostError)
deriving DecidableEq, Inhabited

/-- The text of a task error. -/
def TaskError.message : TaskError → String
  | noSources => "no template sources given"
  | noOutput => "no output file given"
  | outputIsSource output => "output file `" ++ output ++ "` is also a template source"
  | io path e => path ++ ": " ++ e.message
  | bundle e => e.message
  | template path e => path ++ ": " ++ e.message
  | host e => e.message

namespace Task

/-- Refuses tasks without sources or output, and those whose output has the path of a source, in
whatever case. -/
def validate (t : Task) : Except TaskError Unit :=
  if t.sources.isEmpty then .error .noSources
  else if t.output.isEmpty then .error .noOutput
  else if t.sources.any fun s => Text.Case.lowercase s == Text.Case.lowercase t.output then
    .error (.outputIsSource t.output)
  else .ok ()

/-- A compiler with its library loaded. -/
abbrev TaskCompiler := Template.Compiler AnyState AnyDispatch

/-- A compiler for the settings of a task. -/
def compiler (t : Task) : Except HostError TaskCompiler :=
  match Template.Compiler.loadEmbedded languages Registry.forTemplates .uninitialized {} with
  | (.error e, _, _) => .error e
  | (.ok _, c, host) => match c.configure languages t.settings host with
    | (.error e, _, _) => .error e
    | (.ok _, c, _) => .ok c

/-- Compiles one template. -/
def compileText (c : TaskCompiler) (text : String) : Except HostError String × TaskCompiler :=
  let (answer, c, _) := c.compile languages text {}
  (answer, c)

variable {m : Type → Type} [Monad m]

/-- Adds a source to a bundle. -/
def addSource (files : Files m) (c : TaskCompiler) (b : Bundle) (path : String) :
    m (Except TaskError (TaskCompiler × Bundle)) := do
  match templateName path with
  | .error e => return .error (.bundle e)
  | .ok name => match ← files.readText path with
    | .error e => return .error (.io path e)
    | .ok text => match compileText c text with
      | (.error e, _) => return .error (.template path e)
      | (.ok source, c) => return .ok (c, b.push name source)

/-- Adds sources one after the other, as far as the first that fails. -/
def addSources (files : Files m) (c : TaskCompiler) (b : Bundle) :
    List String → m (Except TaskError Bundle)
  | [] => return .ok b
  | path :: rest => do
    match ← addSource files c b path with
    | .error e => return .error e
    | .ok (c, b) => addSources files c b rest

/-- The text of the bundle of all sources. -/
def render (files : Files m) (t : Task) : m (Except TaskError String) := do
  match t.validate with
  | .error e => return .error e
  | .ok _ => match Bundle.new t.ns with
    | .error e => return .error (.bundle e)
    | .ok b => match t.compiler with
      | .error e => return .error (.host e)
      | .ok c => match ← addSources files c b t.sources with
        | .error e => return .error e
        | .ok b => return .ok b.finish

/-- Writes the bundle and answers the number of sources. -/
def run (files : Files m) (t : Task) : m (Except TaskError Nat) := do
  match ← t.render files with
  | .error e => return .error e
  | .ok text => match ← files.replace t.output (Text.Utf8.encode text) with
    | .error (path, e) => return .error (.io path e)
    | .ok _ => return .ok t.sources.length

end Task

end ScriptHost
