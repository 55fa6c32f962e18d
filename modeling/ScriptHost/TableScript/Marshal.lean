import ScriptHost.TableScript.Access

/-!
# Values between scripts and the host

A table becomes an array if its keys are the integers from 1 to its border and nothing else; otherwise
it becomes an object, and keys that are no texts get one.

* `Machine.exportVal` — a value of a script as a value of the host, down to a limit of nesting.
* `Script.importVal` — a value of the host as a value of a script.
* `Script.callHost` — a call of a function of the host.
-/

namespace ScriptHost.TableScript

open Text (Bytes)

/-! ## To the host -/

/-- The deepest nesting that is converted for the host. -/
def exportDepth : Nat := 64

/-- Why a value cannot be converted. -/
def nestedTooDeeply : String := "value nested too deeply"

/-- The text of a key. -/
def keyText : Val → String
  | .int i => Number.intText i
  | .str s => s.toString
  | .bool b => if b then "Boolean(true)" else "Boolean(false)"
  | .num x => "Number(" ++ Decimal.renderFloat Decimal.positional "NaN" "inf" "0" x ++ ")"
  | .table _ => "Table(Ref(0x0))"
  | .function _ => "Function(Ref(0x0))"
  | .thread _ => "Thread(Ref(0x0))"
  | _ => "UserData(Ref(0x0))"

/-- Whether the keys of some entries are the integers from 1 to a number. -/
def isSequence (entries : List (Val × Val)) (n : Nat) : Bool :=
  n > 0 && entries.length == n && entries.all fun (k, _) => match k with
    | .int i => 1 ≤ i && i.toInt ≤ n
    | _ => false

/-- The values of a sequence in order. -/
def inOrder (entries : List (Val × Value)) (n : Nat) : List Value :=
  (entries.foldl (fun (acc : Array Value) (k, v) => match k with
    | .int i => acc.setIfInBounds (i.toInt.toNat - 1) v
    | _ => acc) (Array.replicate n .undefined)).toList

/-- A value for the host, with `levels` levels of nesting left. -/
def Machine.exportAt (m : Machine) : Nat → Val → Except String Value
  | 0, _ => .error nestedTooDeeply
  | levels + 1, v => match v with
    | .nil | .cell _ => .ok .undefined
    | .bool b => .ok (.bool b)
    | .int i => .ok (.number (Number.ofInteger i))
    | .num x => .ok (.number x)
    | .unsignedNan => .ok (.number Number.nan)
    | .str s => .ok (.text s.toString)
    | .function _ => .ok (.foreign "function")
    | .thread _ => .ok (.foreign "thread")
    | .failure _ => .ok (.foreign "error")
    | .file _ => .ok (.foreign "userdata")
    | .table id => do
      let t := m.tableAt id
      let entries := t.entries
      let values ← entries.mapM fun e => m.exportAt levels e.2
      let converted := (entries.map (·.1)).zip values
      let n := t.border.1
      if isSequence entries n then .ok (.array (inOrder converted n))
      else .ok (Value.ofEntries (converted.map fun (k, v) => (keyText k, v)))

/-- A value for the host. -/
def Machine.exportVal (m : Machine) (v : Val) : Except String Value := m.exportAt (exportDepth + 1) v

namespace Script

/-! ## From the host -/

/-- Whole numbers below this bound become integers. -/
def integerBound : Nat := 9000000000000000

/-- A number of the host for scripts. -/
def importNumber (x : Float) : Val :=
  if x.isNaN then .unsignedNan
  else match Decimal.toWhole? x with
    | some i => if i.natAbs < integerBound then .int (.ofInt i) else .num x
    | none => .num x

mutual

/-- A value of the host for scripts. -/
def importVal : Value → Script Val
  | .undefined | .null | .foreign _ => return .nil
  | .bool b => return .bool b
  | .number x => return importNumber x
  | .text s => return .ofString s
  | .array items => do
    let values ← importItems items
    newTable ((values.foldl (fun (t, i) v => (Table.store t (.ofNat i) v, i + 1))
      (({} : Table), 1)).1)
  | .object entries => do newTable (← importEntries entries {})
  | .function f => newFunction (.host f)

/-- Several values of the host for scripts. -/
def importItems : List Value → Script (List Val)
  | [] => return []
  | v :: rest => do
    let w ← importVal v
    return w :: (← importItems rest)

/-- The entries of an object of the host, stored one after the other. -/
def importEntries : List (String × Value) → Table → Script Table
  | [], t => return t
  | (k, v) :: rest, t => do
    let w ← importVal v
    importEntries rest (t.storeText k w)

end

/-! ## Functions of the host -/

/-- Raises an error of the host. -/
def failHost {α : Type} (message : String) : Script α := do
  let trace := (← MonadState.get).traceText (← levels)
  let failure : HostFailure := { message := .ofString ("runtime error: " ++ message), trace }
  let id ← modifyGet fun m =>
    (m.failures.size, { m with failures := m.failures.push failure })
  raise (.failure id)

/-- Calls a function of the host. -/
def callHost (f : HostFunction) (args : Array Val) : Script Val := do
  let m ← MonadState.get
  match args.toList.mapM m.exportVal with
  | .error reason => failHost (NativeError.message (.conversion reason))
  | .ok values =>
    let answer ← modifyGet fun m =>
      let (answer, host) := m.host.call f values
      (answer, { m with host })
    match answer with
    | .ok v => importVal v
    | .error message => failHost (f.name ++ ": " ++ message)

end Script

end ScriptHost.TableScript
