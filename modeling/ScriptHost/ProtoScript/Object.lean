import ScriptHost.ProtoScript.Heap
import ScriptHost.Decimal.Shortest

/-!
# Objects in the heap

Access to the parts of the state, the making of objects and errors, and what an object is known to
have without running any code.

* `Script.throwKind` — raises an error with a message and the stack at this point.
* `Machine.ownProperty?` — a property of an object itself.
* `Obj.store` — an object with one more or another property.
* `Obj.keys` — the keys in the order in which they are gone through.
-/

namespace ScriptHost.ProtoScript

open Text (Units)

/-! ## Numbers and keys as text -/

/-- The text of a number. -/
def numberText (x : Float) : String :=
  if x.abs < 9007199254740992 && x.floor == x then toString x.toInt64.toInt
  else Decimal.renderFloat Decimal.mixed "NaN" "Infinity" "0" x

/-- A whole number as a value. -/
def Val.ofNat (n : Nat) : Val := .num n.toFloat

def Val.ofInt (i : Int) : Val := .num (Decimal.ofInt i)

def Val.ofString (s : String) : Val := .str (Units.ofString s)

/-- The array index that a property name stands for. -/
def indexOf? (s : String) : Option Nat :=
  if !s.front.isDigit || s.utf8ByteSize > 10 then none
  else match s.toList with
    | '0' :: rest => if rest.isEmpty then some 0 else none
    | cs =>
      if cs.all Char.isDigit then
        let v := cs.foldl (fun v c => 10 * v + (c.toNat - 48)) 0
        if v < 4294967295 then some v else none
      else none

/-- The index that a number stands for. -/
def floatIndex? (x : Float) : Option Nat :=
  if x ≥ 0 && x < 4294967295 && x.floor == x then some x.toUInt64.toNat else none

/-- The key of an index. -/
def Key.ofNat (n : Nat) : Key := .name (toString n)

/-- The array index that a key stands for. -/
def Key.index? : Key → Option Nat
  | .name s => indexOf? s
  | .symbol _ => none

/-! ## Properties of an object by itself -/

namespace Obj

/-- The place of a property among the named ones. -/
def place? (o : Obj) (k : Key) : Option Nat := o.props.findIdx? fun e => e.1 == k

/-- A named property. -/
def named? (o : Obj) (k : Key) : Option Property :=
  match o.place? k with
  | some i => o.props[i]?.map (·.2)
  | none => none

/-- An element, unless there is a hole. -/
def element? (o : Obj) (i : Nat) : Option Val :=
  match o.elements[i]? with
  | some .empty | none => none
  | some v => some v

/-- The object with a named property added or replaced. -/
def setNamed (o : Obj) (k : Key) (p : Property) : Obj :=
  match o.place? k with
  | some i => { o with props := o.props.setIfInBounds i (k, p) }
  | none => { o with props := o.props.push (k, p) }

/-- The object without a named property. -/
def dropNamed (o : Obj) (k : Key) : Obj :=
  { o with props := o.props.filter fun e => e.1 != k }

/-- The object with all elements turned into named properties. -/
def spill (o : Obj) : Obj :=
  let named := o.elements.mapIdx fun i v => (Key.ofNat i, Property.plain v)
  let named := named.filter fun (_, p) => match p.slot with
    | .value .empty _ => false
    | _ => true
  { o with elements := #[], props := named ++ o.props }

/-- Elements with one at an index, and holes before it where there was nothing. -/
def putElement (elements : Array Val) (i : Nat) (v : Val) : Array Val :=
  if i < elements.size then elements.setIfInBounds i v
  else (elements ++ Array.replicate (i - elements.size) Val.empty).push v

/-- Whether a property is as an assignment makes it. -/
def isPlain (p : Property) : Bool := match p.slot with
  | .value _ writable => writable && p.enumerable && p.configurable
  | .accessor _ _ => false

/-- The greatest gap that is filled with holes. -/
def gapLimit : Nat := 4096

/-- The object with a property at an index. -/
def storeIndex (o : Obj) (i : Nat) (p : Property) : Obj :=
  let k := Key.ofNat i
  let o := match o.kind with
    | .array length w => { o with kind := .array (max length (i + 1)) w }
    | _ => o
  match p.slot with
  | .value v _ =>
    if isPlain p && i ≤ o.elements.size + gapLimit && (o.place? k).isNone then
      { o with elements := putElement o.elements i v }
    else (if i < o.elements.size then o.spill else o).setNamed k p
  | .accessor _ _ => (if i < o.elements.size then o.spill else o).setNamed k p

/-- Whether an object keeps elements. -/
def hasElements (o : Obj) : Bool := match o.kind with
  | .array _ _ | .arguments _ _ => true
  | _ => false

/-- The object with a property added or replaced. -/
def store (o : Obj) (k : Key) (p : Property) : Obj :=
  if o.hasElements then
    match k.index? with
    | some i => o.storeIndex i p
    | none => o.setNamed k p
  else o.setNamed k p

/-- The object without a property. -/
def erase (o : Obj) (k : Key) : Obj :=
  match if o.hasElements then k.index? else none with
  | some i =>
    let o := if i < o.elements.size then
        { o with elements := o.elements.setIfInBounds i .empty }
      else o
    if o.props.isEmpty then o else o.dropNamed k
  | none => o.dropNamed k

/-- The text of a wrapped string. -/
def wrappedText? (o : Obj) : Option Units := match o.kind with
  | .wrapper (.str u) => some u
  | _ => none

/-- The keys of an object: indices in order, then names and then symbols by age. -/
def keys (o : Obj) : Array Key :=
  let text := match o.wrappedText? with
    | some u => (Array.range u.size).map Key.ofNat
    | none => #[]
  let dense := (Array.range o.elements.size).filter fun i => (o.element? i).isSome
  let sparse := o.props.filterMap fun (k, _) => k.index?
  let indices := if sparse.isEmpty then dense
    else (dense ++ sparse).toList.mergeSort (· ≤ ·) |>.toArray
  let names := o.props.filterMap fun (k, _) => match k with
    | .name s => if (indexOf? s).isSome then none else some k
    | .symbol _ => none
  let symbols := o.props.filterMap fun (k, _) => match k with
    | .name _ => none
    | .symbol _ => some k
  let lengths := match o.kind with
    | .array _ _ | .wrapper (.str _) => #[Key.name "length"]
    | _ => #[]
  text ++ indices.map Key.ofNat ++ lengths ++ names ++ symbols

end Obj

/-! ## The state -/

namespace Machine

/-- An object of the heap. -/
def obj (m : Machine) (id : Nat) : Obj := m.heap.getD id { proto := none }

/-- The variable of a scope. -/
def binding? (m : Machine) (scope : Nat) (name : String) : Option Binding :=
  (m.scopes[scope]?).bind fun s => s.bindings.find? fun b => b.name == name

/-- The value of an element of an arguments object. -/
def argument? (m : Machine) (o : Obj) (scope : Nat) (mapped : Array (Option String)) (i : Nat) :
    Option Val :=
  match o.element? i with
  | none => none
  | some v => match (mapped[i]?).join with
    | some name => some ((m.binding? scope name).map (·.value) |>.getD v)
    | none => some v

/-- A property of an object itself. -/
def ownProperty? (m : Machine) (id : Nat) (k : Key) : Option Property :=
  let o := m.obj id
  match o.kind with
  | .array length writable => match k with
    | .name "length" => some ⟨.value (.ofNat length) writable, false, false⟩
    | _ => match k.index? with
      | some i => match o.element? i with
        | some v => some (.plain v)
        | none => o.named? k
      | none => o.named? k
  | .wrapper (.str u) => match k with
    | .name "length" => some (.fixed (.ofNat u.size))
    | _ => match k.index? with
      | some i => match u[i]? with
        | some c => some ⟨.value (.str #[c]) false, true, false⟩
        | none => o.named? k
      | none => o.named? k
  | .arguments scope mapped => match k.index? with
    | some i => match m.argument? o scope mapped i with
      | some v => some (.plain v)
      | none => o.named? k
    | none => o.named? k
  | _ => o.named? k

/-- Goes up the prototypes of an object, as many as there are objects at most. -/
def findUp {α : Type} (m : Machine) (f : Nat → Option α) : Nat → Nat → Option α
  | 0, _ => none
  | fuel + 1, id => match f id with
    | some a => some a
    | none => match (m.obj id).proto with
      | some p => findUp m f fuel p
      | none => none

/-- A property of an object or of its prototypes. -/
def property? (m : Machine) (id : Nat) (k : Key) : Option Property :=
  m.findUp (fun i => m.ownProperty? i k) (m.heap.size + 1) id

/-- The text of a symbol in messages. -/
def keyText (m : Machine) : Key → String
  | .name s => s
  | .symbol id => ((m.symbols[id]?).bind (·.description)).getD ""

/-- Whether a key is a private name of a class. -/
def isPrivateKey (m : Machine) : Key → Bool
  | .name _ => false
  | .symbol id => ((m.symbols[id]?).map (·.isPrivate)).getD false

/-- The keys of an object that can be seen. -/
def ownKeys (m : Machine) (id : Nat) : Array Key :=
  (m.obj id).keys.filter fun k => !m.isPrivateKey k

/-- Whether a value is a function. -/
def isCallable (m : Machine) : Val → Bool
  | .obj id => match (m.obj id).kind with
    | .function _ | .native _ | .host _ | .bound _ _ _ => true
    | _ => false
  | _ => false

/-- The code of a closure. -/
def code (m : Machine) (c : Closure) : Code := m.codes.getD c.code {}

/-- Whether a value can make objects: all functions of scripts that are no methods or arrows, and the
constructors of the machine, which have a prototype. -/
def isConstructor (m : Machine) (v : Val) : Bool := go 64 v
where
  /-- Goes through bound functions. -/
  go : Nat → Val → Bool
    | fuel + 1, .obj id => match (m.obj id).kind with
      | .function c =>
        let code := m.code c
        code.kind == .normal && (code.form == .plain || code.form == .classConstructor
          || code.form == .derivedConstructor)
      | .native _ => ((m.obj id).named? (.name "prototype")).isSome
      | .bound target _ _ => go fuel target
      | _ => false
    | _, _ => false

/-- Whether a value is an array. -/
def isArray (m : Machine) : Val → Bool
  | .obj id => match (m.obj id).kind with
    | .array _ _ => true
    | _ => false
  | _ => false

/-- The name of a function, as far as it is plain text. -/
def functionName (m : Machine) : Val → String
  | .obj id => match m.ownProperty? id (.name "name") with
    | some ⟨.value (.str u) _, _, _⟩ => u.toString
    | _ => ""
  | _ => ""

/-- One line of a stack text. -/
def stackLine (name place : String) : String :=
  "    at " ++ (if name.isEmpty then "<anonymous>" else name) ++ " (" ++ place ++ ")\n"

/-- The lines of an activation, the latest first. -/
def activationLines (m : Machine) (a : Activation) : List String :=
  let natives := a.natives.map fun f => stackLine (m.functionName f) "native"
  let frame := match a.frame.callee with
    | .empty => []
    | callee =>
      let name := match callee with
        | .undefined => a.frame.code.name
        | f => m.functionName f
      let p := a.frame.code.posAt a.frame.pc
      [stackLine name (a.frame.code.file ++ ":" ++ toString p.line ++ ":" ++ toString p.column)]
  natives ++ frame

/-- The lines of all that is running, the latest first. -/
def stackLines (m : Machine) : List String :=
  (⟨m.frame, m.natives⟩ :: m.callers).flatMap m.activationLines

/-- The state as code sees it after the machine's own functions have returned. -/
def withoutNatives (m : Machine) : Machine := { m with natives := [] }

end Machine

namespace Script

/-- An object of the heap. -/
def obj (id : Nat) : Script Obj := return (← get).obj id

/-- Changes an object. -/
def updateObj (id : Nat) (f : Obj → Obj) : Script Unit :=
  modify fun m => { m with heap := m.heap.modify id f }

/-- Makes an object. -/
def alloc (o : Obj) : Script Nat :=
  modifyGet fun m =>
    let id := m.heap.size
    (id, { m with heap := m.heap.push o })

/-- Makes an object, as a value. -/
def allocVal (o : Obj) : Script Val := return .obj (← alloc o)

/-- Makes an ordinary object. -/
def newObject (proto : Intrinsic := .objectProto) : Script Nat :=
  alloc { proto := some proto.id }

/-- Makes an array. -/
def newArray (elements : Array Val) : Script Val :=
  allocVal { proto := some Intrinsic.arrayProto.id, kind := .array elements.size true, elements }

/-- Adds a property, or replaces it. -/
def define (id : Nat) (k : Key) (p : Property) : Script Unit :=
  updateObj id fun o => o.store k p

/-- Adds a property that is left out of enumerations. -/
def defineHidden (id : Nat) (name : String) (v : Val) : Script Unit :=
  define id (.name name) (.hidden v)

/-- Calls a function. -/
def call (f this : Val) (args : Array Val) : Script Val := fun calls => calls.call f this args

/-- Makes an object by a constructor. -/
def construct (f : Val) (args : Array Val) (target : Val) : Script Val :=
  fun calls => calls.construct f args target

/-- Throws a value. -/
def throwVal {α : Type} (v : Val) : Script α := throw (.thrown v)

/-- Catches what a computation throws. -/
def catching {α : Type} (act : Script α) (handle : Val → Script α) : Script α := do
  try act
  catch
    | .thrown v => handle v
    | .exhausted => throw .exhausted

/-- The text of the stack, without some of the latest lines. -/
def stackText (skip : Nat := 0) : Script String :=
  return String.join ((← get).stackLines.drop skip)

/-- Makes an error with a message and the stack at this point. -/
def makeError (kind : ErrorKind) (message : String) : Script Nat := do
  let id ← alloc { proto := some kind.proto.id, kind := .error }
  defineHidden id "message" (.ofString message)
  defineHidden id "stack" (.ofString (← stackText))
  return id

/-- Raises an error. -/
def throwKind {α : Type} (kind : ErrorKind) (message : String) : Script α := do
  throwVal (.obj (← makeError kind message))

def throwType {α : Type} (message : String) : Script α := throwKind .typeError message

def throwRange {α : Type} (message : String) : Script α := throwKind .rangeError message

/-- Raises the error of a text that cannot be parsed. -/
def throwSyntax {α : Type} (message file : String) (line column : Nat) : Script α := do
  let id ← alloc { proto := some Intrinsic.syntaxErrorProto.id, kind := .error }
  defineHidden id "message" (.ofString message)
  let head := "    at " ++ file ++ ":" ++ toString line ++ ":" ++ toString column ++ "\n"
  defineHidden id "fileName" (.ofString file)
  defineHidden id "lineNumber" (.ofNat line)
  defineHidden id "columnNumber" (.ofNat column)
  defineHidden id "stack" (.ofString (head ++ (← stackText)))
  throwVal (.obj id)

end Script

end ScriptHost.ProtoScript
