import ScriptHost.ProtoScript.Convert

/-!
# Writing properties

* `Script.put` — assignment, which may run a setter or be refused.
* `Script.defineOwn` — the definition of a property by a descriptor.
* `Script.delete` — deletion.
* `Script.setLength` — the length of an array.
-/

namespace ScriptHost.ProtoScript

open Text (Units)

/-- A description of a property, of which parts may be missing. -/
structure Descriptor where
  value : Option Val := none
  writable : Option Bool := none
  getter : Option Val := none
  setter : Option Val := none
  enumerable : Option Bool := none
  configurable : Option Bool := none
deriving Inhabited

/-- A complete description of a property. -/
def Descriptor.ofProperty (p : Property) : Descriptor :=
  match p.slot with
  | .value v w => ⟨some v, some w, none, none, some p.enumerable, some p.configurable⟩
  | .accessor g s => ⟨none, none, some g, some s, some p.enumerable, some p.configurable⟩

def Descriptor.isAccessor (d : Descriptor) : Bool := d.getter.isSome || d.setter.isSome

def Descriptor.isData (d : Descriptor) : Bool := d.value.isSome || d.writable.isSome

/-- The property of a description, with what is missing taken from an earlier property. -/
def Descriptor.over (d : Descriptor) (p : Property) : Property :=
  let slot := match p.slot with
    | .value v w =>
      if d.isAccessor then .accessor (d.getter.getD .undefined) (d.setter.getD .undefined)
      else .value (d.value.getD v) (d.writable.getD w)
    | .accessor g s =>
      if d.isData then .value (d.value.getD .undefined) (d.writable.getD false)
      else .accessor (d.getter.getD g) (d.setter.getD s)
  ⟨slot, d.enumerable.getD p.enumerable, d.configurable.getD p.configurable⟩

/-- Whether a property that cannot be configured admits a description. -/
def Descriptor.admittedBy (d : Descriptor) (p : Property) : Bool :=
  p.configurable ||
    (d.configurable != some true && (d.enumerable.getD p.enumerable) == p.enumerable
      && match p.slot with
        | .value v w => !d.isAccessor
          && (w || (d.writable != some true
            && (d.value.map fun u => sameValue u v).getD true))
        | .accessor g s => !d.isData
          && (d.getter.map fun u => sameValue u g).getD true
          && (d.setter.map fun u => sameValue u s).getD true)

/-- Whether a key is an index from a bound on. -/
def Key.isFrom (n : Nat) (k : Key) : Bool := match k.index? with
  | some i => n ≤ i
  | none => false

namespace Script

/-- Fails if failures are to be reported. -/
def refuse (strict : Bool) (message : String) : Script Unit :=
  if strict then throwType message else return

/-- Refuses to change a property. -/
def refuseReadOnly (strict : Bool) (k : Key) : Script Unit := do
  refuse strict ("'" ++ (← MonadState.get).keyText k ++ "' is read-only")

/-- The length that a value stands for. -/
def arrayLength (v : Val) : Script Nat := do
  let x ← toNumber v
  match floatIndex? x with
  | some n => return n
  | none =>
    if x == 4294967295 then return 4294967295
    throwRange "invalid array length"

/-- Sets the length of an array. -/
def setLength (id : Nat) (v : Val) (strict : Bool) : Script Unit := do
  let n ← arrayLength v
  let o ← obj id
  match o.kind with
  | .array length writable =>
    if n != length && !writable then refuseReadOnly strict (.name "length")
    else
      -- an element that cannot be removed bounds the length from below
      let stuck := o.props.foldl (fun acc (k, p) => match k.index? with
        | some i => if n ≤ i && !p.configurable then max acc (i + 1) else acc
        | none => acc) n
      updateObj id fun o => { o with
        kind := .array stuck writable
        elements := o.elements.shrink stuck
        props := if o.props.any fun e => e.1.isFrom stuck then
            o.props.filter fun e => !e.1.isFrom stuck
          else o.props }
      if stuck != n then refuse strict "property is not configurable"
  | _ => return

/-- Assigns to a variable of a scope. -/
def setBinding (scope : Nat) (name : String) (v : Val) : Script Unit := modify fun m =>
  { m with scopes := m.scopes.modify scope fun s =>
      { s with bindings := match s.bindings.findIdx? (·.name == name) with
        | some i => s.bindings.modify i fun b => { b with value := v }
        | none => s.bindings } }

/-- Changes the value of a property that an object itself has and that can be written. -/
def setOwnValue (id : Nat) (k : Key) (v : Val) (strict : Bool) : Script Unit := do
  let o ← obj id
  match o.kind with
  | .array _ _ =>
    if k == .name "length" then setLength id v strict
    else match k.index? with
      | some i =>
        if i < o.elements.size then
          updateObj id fun o => { o with elements := o.elements.setIfInBounds i v }
        else setNamedValue id k v
      | none => setNamedValue id k v
  | .arguments scope mapped =>
    match k.index? with
    | some i =>
      if i < o.elements.size then
        updateObj id fun o => { o with elements := o.elements.setIfInBounds i v }
        match (mapped[i]?).join with
        | some name => setBinding scope name v
        | none => return
      else setNamedValue id k v
    | none => setNamedValue id k v
  | _ => setNamedValue id k v
where
  /-- Changes the value of a named property. -/
  setNamedValue (id : Nat) (k : Key) (v : Val) : Script Unit := updateObj id fun o =>
    match o.place? k with
    | some i => { o with props := o.props.modify i fun (k, p) => (k, match p.slot with
        | .value _ w => { p with slot := .value v w }
        | .accessor _ _ => p) }
    | none => o

/-- Adds a property that an object does not have. -/
def addProperty (id : Nat) (k : Key) (v : Val) (strict : Bool) : Script Unit := do
  let o ← obj id
  if !o.extensible then refuse strict "object is not extensible"
  else match o.kind, k.index? with
    | .array length false, some i =>
      if i ≥ length then refuseReadOnly strict (.name "length") else define id k (.plain v)
    | _, _ => define id k (.plain v)

/-- Assigns to a property of an object on behalf of a receiver. -/
def putOn (id : Nat) (k : Key) (v receiver : Val) (strict : Bool) : Script Unit := do
  let m ← MonadState.get
  let own := m.ownProperty? id k
  let found := match own with
    | some p => some p
    | none => ((m.obj id).proto).bind fun p => m.property? p k
  match found with
  | some ⟨.accessor _ setter, _, _⟩ =>
    if setter.isUndefined then refuse strict "no setter for property"
    else
      let _ ← call setter receiver #[v]
  | some ⟨.value _ false, _, _⟩ => refuseReadOnly strict k
  | _ =>
    match receiver with
    | .obj r =>
      if r == id then
        if own.isSome then setOwnValue id k v strict else addProperty id k v strict
      else match m.ownProperty? r k with
        | some ⟨.value _ true, _, _⟩ => setOwnValue r k v strict
        | some ⟨.value _ false, _, _⟩ => refuseReadOnly strict k
        | some ⟨.accessor _ _, _, _⟩ => refuse strict "setter is forbidden"
        | none => addProperty r k v strict
    | _ => refuse strict "not an object"

/-- Assigns to a property of a value. -/
def put (target : Val) (k : Key) (v : Val) (strict : Bool := true) : Script Unit :=
  match target with
  | .obj id => putOn id k v target strict
  | .undefined | .null | .empty => do
    let what := match target with
      | .null => "null"
      | _ => "undefined"
    throwType ("cannot set property '" ++ (← MonadState.get).keyText k ++ "' of " ++ what)
  | _ => match primitiveProto? target with
    | some p => putOn p.id k v target strict
    | none => return

/-- Assigns to a property by its name; a failure is reported. -/
def putName (target : Val) (name : String) (v : Val) : Script Unit :=
  put target (.name name) v true

/-- Defines a property by a descriptor; whether that was possible. -/
def defineOwn (id : Nat) (k : Key) (d : Descriptor) (strict : Bool := true) : Script Bool := do
  let m ← MonadState.get
  let o := m.obj id
  match m.ownProperty? id k with
  | none =>
    if !o.extensible then
      refuse strict "object is not extensible"
      return false
    let fresh : Property := if d.isAccessor then
        ⟨.accessor (d.getter.getD .undefined) (d.setter.getD .undefined), d.enumerable.getD false,
          d.configurable.getD false⟩
      else ⟨.value (d.value.getD .undefined) (d.writable.getD false), d.enumerable.getD false,
          d.configurable.getD false⟩
    define id k fresh
    return true
  | some p =>
    if !d.admittedBy p then
      refuse strict "property is not configurable"
      return false
    match o.kind, k with
    | .array _ _, .name "length" =>
      match d.value with
      | some v => setLength id v strict
      | none => pure ()
      if d.writable == some false then
        updateObj id fun o => match o.kind with
          | .array n _ => { o with kind := .array n false }
          | _ => o
      return true
    | .arguments scope mapped, _ =>
      match k.index? with
      | some i =>
        match d.value, (mapped[i]?).join with
        | some v, some name => setBinding scope name v
        | _, _ => pure ()
        if d.isAccessor || d.writable == some false then
          updateObj id fun o => { o with kind := .arguments scope (mapped.setIfInBounds i none) }
      | none => pure ()
      define id k (d.over p)
      return true
    | _, _ =>
      define id k (d.over p)
      return true

/-- Deletes a property; whether it is gone. -/
def delete (id : Nat) (k : Key) (strict : Bool) : Script Bool := do
  let m ← MonadState.get
  match m.ownProperty? id k with
  | none => return true
  | some p =>
    if p.configurable then
      updateObj id fun o =>
        let o := o.erase k
        match o.kind, k.index? with
        | .arguments scope mapped, some i =>
          { o with kind := .arguments scope (mapped.setIfInBounds i none) }
        | _, _ => o
      return true
    else
      refuse strict "could not delete property"
      return false

/-- Copies the own enumerable properties of a value, but for some. -/
def copyOwn (target : Nat) (source : Val) (excluded : List Key) : Script Unit := do
  if source.isNullish then return
  let id ← toObject source
  for k in (← MonadState.get).ownKeys id do
    if !excluded.contains k then
      match (← MonadState.get).ownProperty? id k with
      | some p =>
        if p.enumerable then
          let v ← readSlot (some p) source
          define target k (.plain v)
      | none => pure ()

/-- The enumerable names of an object itself. -/
def ownNames (id : Nat) : Script (Array String) := do
  let m ← MonadState.get
  return (m.ownKeys id).filterMap fun k => match k with
    | .name s => match m.ownProperty? id k with
      | some p => if p.enumerable then some s else none
      | none => none
    | .symbol _ => none

/-- The elements of an array-like object, from its length and indices. -/
def listOf (v : Val) : Script (Array Val) := do
  match v with
  | .obj id =>
    let o ← obj id
    let dense := match o.kind with
      | .array n _ => n == o.elements.size && !o.elements.any fun e => match e with
          | .empty => true
          | _ => false
      | _ => false
    if dense then return o.elements
    let n ← toLength (← getName v "length")
    let mut out := #[]
    for i in [0:n] do out := out.push (← get v (.ofNat i))
    return out
  | _ => throwType "not a object"

end Script

end ScriptHost.ProtoScript
