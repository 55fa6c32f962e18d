import ScriptHost.Engine.Rehearsed
import ScriptHost.Engine.Sum
import ScriptHost.Registry
import ScriptHost.TableScript.Interpreter
import ScriptHost.Template.Library

/-!
# The languages of the host

* `languages` — the engine of every language that the host knows.
* `Registry.standard` — the registry that hosts start with.
* `Registry.forTemplates` — the registry that template compilers use.
-/

namespace ScriptHost

/-- An engine of one of the languages. -/
abbrev AnyState :=
  ((Interpreted.State ProtoScript.Machine ⊕ Interpreted.State Template.Library.State) ⊕
    Interpreted.State TableScript.Machine) ⊕ EngineState

/-- A dispatch of one of them. -/
abbrev AnyDispatch :=
  ((Interpreted.Dispatch ⊕ Interpreted.Dispatch) ⊕ Interpreted.Dispatch) ⊕ Unit

/-- All engines as one.  Rehearsed engines have the given capabilities. -/
def languages (rehearsed : Capabilities := .required) : Engine AnyState AnyDispatch :=
  (((Interpreted.engine ProtoScript.interpreter).sum
    (Interpreted.engine Template.Library.interpreter)).sum
    (Interpreted.engine TableScript.interpreter)).sum (Engine.Rehearsed.engine rehearsed)

/-- Makes an engine of the first language. -/
def protoScriptFactory : Factory AnyState := fun host =>
  (.ok (.inl (.inl (.inl (.new ProtoScript.interpreter)))), host)

/-- Makes an engine of the first language that knows the template library. -/
def libraryFactory : Factory AnyState := fun host =>
  (.ok (.inl (.inl (.inr (.new Template.Library.interpreter)))), host)

/-- Makes an engine of the second language. -/
def tableScriptFactory : Factory AnyState := fun host =>
  (.ok (.inl (.inr (.new TableScript.interpreter))), host)

/-- Makes a rehearsed engine. -/
def rehearsedFactory : Factory AnyState := fun host =>
  let (answer, host) := Engine.Rehearsed.factory host
  (answer.map .inr, host)

/-- The registry that hosts start with. -/
def Registry.standard : Registry AnyState :=
  ((Registry.empty.register "jscript" protoScriptFactory).register "javascript"
    protoScriptFactory).register "lua" tableScriptFactory

/-- The registry that template compilers use. -/
def Registry.forTemplates : Registry AnyState :=
  (Registry.standard.register "jscript" libraryFactory).register "javascript" libraryFactory

end ScriptHost
