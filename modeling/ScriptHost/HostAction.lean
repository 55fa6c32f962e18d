import ScriptHost.Engine

/-!
# Simple functions of a host

What a function of the host does with its arguments, for hosts whose functions are described by data.

* `HostAction.run` — the answer of one call.
* `Host.withActions` — a host whose functions act as a table says.
-/

namespace ScriptHost

/-- What a function of the host does. -/
inductive HostAction where
  /-- Answers the array of its arguments. -/
  | echo
  /-- Answers its first argument. -/
  | first
  /-- Answers the number of its arguments. -/
  | count
  /-- Answers the texts of its arguments. -/
  | join
  /-- Answers the type names of its arguments. -/
  | types
  /-- Answers the sum of its arguments. -/
  | sum
  | fail (message : String)
  | constant (v : Value)

namespace HostAction

/-- Adds numbers from the left; fails at the first argument that is none. -/
def addAll (total : Float) : List Value → Except String Value
  | [] => .ok (.number total)
  | v :: rest => match v.number? with
    | some x => addAll (total + x) rest
    | none => .error ("number expected, got " ++ v.typeName)

/-- The answer of one call. -/
def run (args : List Value) : HostAction → Except String Value
  | echo => .ok (.array args)
  | first => .ok (args.headD .undefined)
  | count => .ok (.number args.length.toFloat)
  | join => .ok (.text ("|".intercalate (args.map Value.display)))
  | types => .ok (.text ("|".intercalate (args.map Value.typeName)))
  | sum => addAll (-0.0) args
  | fail message => .error message
  | constant v => .ok v

end HostAction

/-- A host whose functions act as a table says, by their `id`. -/
def Host.withActions (h : Host) (actions : Array HostAction) : Host :=
  { h with functions := fun id args => (actions.getD id (.constant .undefined)).run args }

end ScriptHost
