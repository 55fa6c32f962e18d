import ScriptHost.ProtoScript.Assign

/-!
# Values between scripts and the host

* `Script.exportVal` — a value of a script as a value of the host, down to a limit of nesting.
* `Script.importVal` — a value of the host as a value of a script.
-/

namespace ScriptHost.ProtoScript

open Text (Units)

/-- The deepest nesting that is converted for the host. -/
def exportDepth : Nat := 64

namespace Script

/-- Why a value cannot be converted. -/
def nestedTooDeeply : String := "value nested too deeply"

/-- Converts several values, as far as the first failure. -/
def exportList (convert : Val → Script (Except String Value)) :
    List Val → List Value → Script (Except String (List Value))
  | [], done => return .ok done.reverse
  | v :: rest, done => do
    match ← convert v with
    | .error e => return .error e
    | .ok w => exportList convert rest (w :: done)

/-- Reads a property for the host: what a getter throws is a failure of the conversion. -/
def readForHost (v : Val) (k : Key) : Script (Except String Val) :=
  catching (return .ok (← get v k)) fun _ => return .error "Exception generated by QuickJS"

/-- Converts the properties of a value. -/
def exportKeys (convert : Val → Script (Except String Value)) (v : Val) :
    List Key → List Value → Script (Except String (List Value))
  | [], done => return .ok done.reverse
  | k :: rest, done => do
    match ← readForHost v k with
    | .error e => return .error e
    | .ok w => match ← convert w with
      | .error e => return .error e
      | .ok x => exportKeys convert v rest (x :: done)

/-- The text of units for the host. -/
def exportUnits (u : Units) : Except String Value :=
  match u.strayOffset? with
  | none => .ok (.text u.toString)
  | some i => .error
      ("Conversion from string failed: invalid utf-8 sequence of 1 bytes from index " ++ toString i)

/-- A value for the host, with `levels` levels of nesting left. -/
def exportAt : Nat → Val → Script (Except String Value)
  | 0, _ => return .error nestedTooDeeply
  | levels + 1, v => do
    match v with
    | .undefined | .empty => return .ok .undefined
    | .null => return .ok .null
    | .bool b => return .ok (.bool b)
    | .num x => return .ok (.number x)
    | .str u => return exportUnits u
    | .big _ => return .ok (.foreign "bigint")
    | .sym _ => return .ok (.foreign "symbol")
    | .obj id =>
      let m ← MonadState.get
      if m.isCallable v then return .ok (.foreign "function")
      else match (m.obj id).kind with
        | .array length _ =>
          let keys := (List.range length).map Key.ofNat
          return (← exportKeys (exportAt levels) v keys []).map Value.array
        | _ =>
          let names ← ownNames id
          let keys := names.toList.map Key.name
          return (← exportKeys (exportAt levels) v keys []).map fun vs =>
            Value.ofEntries (names.toList.zip vs)

/-- A value for the host. -/
def exportVal (v : Val) : Script (Except String Value) := exportAt (exportDepth + 1) v

mutual

/-- A value of the host for scripts. -/
def importVal : Value → Script Val
  | .undefined | .foreign _ => return .undefined
  | .null => return .null
  | .bool b => return .bool b
  | .number x => return .num x
  | .text s => return .ofString s
  | .array items => do newArray (← importItems items).toArray
  | .object entries => do
    let id ← newObject
    importEntries id entries
    return .obj id
  | .function f => do
    let id ← alloc { proto := some Intrinsic.functionProto.id, kind := .host f }
    define id (.name "length") ⟨.value (.num 0) false, false, true⟩
    return .obj id

/-- Several values of the host for scripts. -/
def importItems : List Value → Script (List Val)
  | [] => return []
  | v :: rest => do
    let w ← importVal v
    return w :: (← importItems rest)

/-- The entries of an object of the host, assigned one after the other. -/
def importEntries (id : Nat) : List (String × Value) → Script Unit
  | [] => return
  | (k, v) :: rest => do
    let w ← importVal v
    put (.obj id) (.name k) w
    importEntries id rest

end

/-- An error made by the host, which stands at the code that runs. -/
def throwHost {α : Type} (message : String) : Script α := do
  let id ← alloc { proto := some Intrinsic.errorProto.id, kind := .error }
  define id (.name "message") (.plain (.ofString message))
  let m ← MonadState.get
  defineHidden id "stack" (.ofString (String.join (m.withoutNatives.stackLines)))
  throwVal (.obj id)

/-- Calls a function of the host. -/
def callHost (f : HostFunction) (args : Array Val) : Script Val := do
  match ← exportList exportVal args.toList [] with
  | .error e => throwType (NativeError.message (.conversion e))
  | .ok values =>
    let answer ← modifyGet fun m =>
      let (answer, host) := m.host.call f values
      (answer, { m with host })
    match answer with
    | .ok v => importVal v
    | .error message => throwHost message

end Script

end ScriptHost.ProtoScript
