import ScriptHost.ProtoScript.Builtin.Arrays
import ScriptHost.ProtoScript.Builtin.Collections
import ScriptHost.ProtoScript.Builtin.Dates
import ScriptHost.ProtoScript.Builtin.Errors
import ScriptHost.ProtoScript.Builtin.Globals
import ScriptHost.ProtoScript.Builtin.Json
import ScriptHost.ProtoScript.Builtin.Patterns
import ScriptHost.ProtoScript.Builtin.Texts

/-!
# The machine before any text has run

The functions of the machine are numbered in the order in which they are installed; a function object
holds its number, and `Setup.initial.library` the functions themselves.

* `Setup` — a machine under construction with the functions installed so far.
* `Setup.installClass`, `Setup.installNamespace` — one step of the construction.
* `Machine.initial`, `library` — the result.
-/

namespace ScriptHost.ProtoScript

open Builtin

/-- A machine under construction, with its functions in the order of their numbers. -/
structure Setup where
  machine : Machine
  library : Array Native := #[]

namespace Setup

/-- Changes an object. -/
def update (s : Setup) (id : Nat) (f : Obj → Obj) : Setup :=
  { s with machine := { s.machine with heap := s.machine.heap.modify id f } }

/-- Adds a property, or replaces it. -/
def define (s : Setup) (id : Nat) (k : Key) (p : Property) : Setup := s.update id fun o => o.store k p

/-- Adds a property that can be changed only by a new definition. -/
def defineFirm (s : Setup) (id : Nat) (k : Key) (v : Val) : Setup :=
  s.define id k ⟨.value v false, false, true⟩

/-- The object of a function of the machine. -/
def functionObject (index : Nat) (n : Native) (proto : Nat) : Obj where
  proto := some proto
  kind := .native index
  props := #[
    (.name "length", ⟨.value (.ofNat n.length) false, false, true⟩),
    (.name "name", ⟨.value (.ofString n.name) false, false, true⟩)]

/-- Adds a function of the machine, in a fixed place or a new one. -/
def addNative (s : Setup) (n : Native) (place : Option Intrinsic)
    (proto : Nat := Intrinsic.functionProto.id) : Nat × Setup :=
  let o := functionObject s.library.size n proto
  let s := { s with library := s.library.push n }
  match place with
  | some i => (i.id, s.update i.id fun _ => o)
  | none =>
    (s.machine.heap.size, { s with machine := { s.machine with heap := s.machine.heap.push o } })

/-- A key that stands for no property. -/
def noKey : Key := .symbol WellKnown.names.length

/-- The property of a member, given the property that is there already. -/
def memberProperty (f : Val) (role : MethodRole) (earlier : Option Property) : Property :=
  let (getter, setter) := match earlier with
    | some ⟨.accessor g s, _, _⟩ => (g, s)
    | _ => (Val.undefined, Val.undefined)
  match role with
  | .method => .hidden f
  | .getter => ⟨.accessor f setter, false, true⟩
  | .setter => ⟨.accessor getter f, false, true⟩

/-- Adds a member to an object. -/
def addMember (home : Nat) (s : Setup) (m : Member) : Setup :=
  let (f, s) := s.addNative m.native m.place
  if m.key = noKey then s
  else s.define home m.key (memberProperty (.obj f) m.role ((s.machine.obj home).named? m.key))

/-- Adds fixed properties to an object. -/
def addConstants (s : Setup) (home : Nat) (constants : List (String × Val)) : Setup :=
  constants.foldl (fun s (name, v) => s.define home (.name name) (.fixed v)) s

/-- Adds the tag that the text of an object shows. -/
def addTag (s : Setup) (home : Nat) (tag : String) : Setup :=
  s.defineFirm home WellKnown.toStringTag.key (.ofString tag)

/-- The constructor of a class that was installed. -/
def globalFunction? (s : Setup) (name : String) : Option Nat :=
  match (s.machine.obj Intrinsic.global.id).named? (.name name) with
  | some ⟨.value (.obj id) _, _, _⟩ => some id
  | _ => none

/-- Adds a class.  Its constructor becomes a global variable if it is `known`. -/
def installClass (known : Bool) (s : Setup) (c : ClassSpec) : Setup :=
  let parent := (c.parent.bind s.globalFunction?).getD Intrinsic.functionProto.id
  let (f, s) := s.addNative c.constructor none parent
  let proto := c.proto.id
  let s := s.define f (.name "prototype") (.fixed (.obj proto))
  let s := if known then s.define proto (.name "constructor") (.hidden (.obj f))
    else s.defineFirm proto (.name "constructor") (.obj f)
  let s := c.statics.foldl (addMember f) s
  let s := s.addConstants f c.constants
  let s := c.methods.foldl (addMember proto) s
  if known then
    s.define Intrinsic.global.id (.name c.constructor.name) (.hidden (.obj f))
  else s

/-- Adds an object with members. -/
def installNamespace (s : Setup) (n : Namespace) : Setup :=
  let (home, s) := match n.home with
    | some i => (i.id, s)
    | none =>
      let o : Obj := { proto := some Intrinsic.objectProto.id }
      (s.machine.heap.size, { s with machine := { s.machine with heap := s.machine.heap.push o } })
  let s := n.members.foldl (addMember home) s
  let s := s.addConstants home n.constants
  let s := match n.tag with
    | some tag => s.addTag home tag
    | none => s
  match n.name with
  | some name => s.define Intrinsic.global.id (.name name) (.hidden (.obj home))
  | none => s

/-! ## The objects that are always there -/

/-- The prototype of an object that is always there. -/
def protoOf : Intrinsic → Option Intrinsic
  | .objectProto => none
  | .syntaxErrorProto | .referenceErrorProto | .typeErrorProto | .rangeErrorProto | .uriErrorProto
  | .evalErrorProto | .internalErrorProto | .aggregateErrorProto => some .errorProto
  | .arrayIteratorProto | .stringIteratorProto | .mapIteratorProto | .setIteratorProto
  | .generatorProto => some .iteratorProto
  | .generatorFunctionProto | .asyncFunctionProto | .asyncGeneratorFunctionProto =>
    some .functionProto
  | _ => some .objectProto

/-- What an object that is always there has beside its properties. -/
def kindOf : Intrinsic → Kind
  | .functionProto => .native 0
  | .arrayProto => .array 0 true
  | .stringProto => .wrapper (.str #[])
  | .numberProto => .wrapper (.num 0)
  | .booleanProto => .wrapper (.bool false)
  | _ => .ordinary

/-- All objects that are always there, in the order of the heap. -/
def intrinsics : List Intrinsic := [
  .global, .objectProto, .functionProto, .arrayProto, .stringProto, .numberProto, .booleanProto,
  .symbolProto, .bigintProto, .errorProto, .syntaxErrorProto, .referenceErrorProto,
  .typeErrorProto, .rangeErrorProto, .uriErrorProto, .evalErrorProto, .internalErrorProto,
  .aggregateErrorProto, .regexpProto, .dateProto, .mapProto, .setProto, .weakMapProto,
  .weakSetProto, .promiseProto, .iteratorProto, .arrayIteratorProto, .stringIteratorProto,
  .mapIteratorProto, .setIteratorProto, .generatorProto, .generatorFunctionProto,
  .asyncFunctionProto, .asyncGeneratorProto, .asyncGeneratorFunctionProto, .throwTypeError,
  .arrayValues, .promiseFulfil, .promiseReject, .evalFunction]

/-- The function that all functions inherit from; it does nothing. -/
def silent : Native := ⟨"", 0, fun _ _ _ => return .undefined⟩

/-- The machine with its first objects only. -/
def bare : Setup where
  machine := {
    heap := (intrinsics.map fun i =>
      ({ proto := (protoOf i).map Intrinsic.id, kind := kindOf i } : Obj)).toArray
    scopes := #[{ parent := 0, kind := .global }]
    symbols := (WellKnown.names.map fun name =>
      ({ description := some ("Symbol." ++ name) } : SymbolInfo)).toArray }
  library := #[silent]

/-- The names and empty messages of the prototypes of errors. -/
def nameErrors (s : Setup) : Setup :=
  [ErrorKind.error, .evalError, .rangeError, .referenceError, .syntaxError, .typeError, .uriError,
    .internalError, .aggregateError].foldl (fun s kind =>
      let s := s.define kind.proto.id (.name "name") (.hidden (.ofString kind.name))
      s.define kind.proto.id (.name "message") (.hidden (.str #[]))) s

/-- Connects the functions of a kind with the prototype of what they make. -/
def linkMaker (s : Setup) (maker made : Intrinsic) : Setup :=
  let s := s.defineFirm maker.id (.name "prototype") made.val
  s.defineFirm made.id (.name "constructor") maker.val

/-- Makes a method of a class the same function as a global one. -/
def share (className : String) (s : Setup) (name : String) : Setup :=
  match s.globalFunction? className, s.globalFunction? name with
  | some home, some f => s.define home (.name name) (.hidden (.obj f))
  | _, _ => s

/-- The constructors of functions that have no global name. -/
def makerClasses : List ClassSpec :=
  [(FunctionKind.generator, "GeneratorFunction", Intrinsic.generatorFunctionProto),
    (.async, "AsyncFunction", .asyncFunctionProto),
    (.asyncGenerator, "AsyncGeneratorFunction", .asyncGeneratorFunctionProto)].map
    fun (kind, name, proto) =>
      { constructor := ⟨name, 1, fun _ args _ => Object.makeFunction kind args⟩, proto }

/-- The classes with a global name. -/
def classes : List ClassSpec :=
  [Object.spec, Object.functionSpec] ++ Errors.specs ++ [
    Arrays.spec, Numbers.numberSpec, Numbers.booleanSpec, Texts.spec, Errors.symbolSpec,
    Collections.mapSpec, Collections.setSpec, Collections.weakMapSpec, Collections.weakSetSpec,
    Numbers.bigintSpec, Dates.spec, Patterns.spec, Collections.promiseSpec]

/-- The objects with members that are no classes. -/
def namespaces : List Namespace :=
  Collections.iteratorNamespaces ++ [
    Globals.refusal, Numbers.mathNamespace, Globals.reflectNamespace, Json.jsonNamespace,
    { name := none, home := some .global, members := Globals.globalMembers
      constants := [("Infinity", .num (1.0 / 0.0)), ("NaN", .num (0.0 / 0.0)),
        ("undefined", .undefined)] }]

/-- The tags of the prototypes of classes. -/
def tags : List (Intrinsic × String) := [
  (.symbolProto, "Symbol"), (.bigintProto, "BigInt"), (.mapProto, "Map"), (.setProto, "Set"),
  (.weakMapProto, "WeakMap"), (.weakSetProto, "WeakSet"), (.promiseProto, "Promise")]

/-- The finished machine with its functions. -/
def initial : Setup :=
  let s := bare.update Intrinsic.functionProto.id fun o =>
    { o with props := (functionObject 0 silent Intrinsic.functionProto.id).props }
  let s := s.nameErrors
  let s := classes.foldl (installClass true) s
  let s := makerClasses.foldl (installClass false) s
  let s := namespaces.foldl installNamespace s
  let s := ["parseInt", "parseFloat"].foldl (share "Number") s
  let s := tags.foldl (fun s (i, tag) => s.addTag i.id tag) s
  let s := s.linkMaker .generatorFunctionProto .generatorProto
  let s := s.linkMaker .asyncGeneratorFunctionProto .asyncGeneratorProto
  let s := s.define Intrinsic.arrayProto.id WellKnown.iterator.key
    (.hidden Intrinsic.arrayValues.val)
  s.define Intrinsic.global.id (.name "globalThis") (.hidden Intrinsic.global.val)

end Setup

/-- The functions of the machine, by their numbers. -/
def library : Array Native := Setup.initial.library

/-- The machine before any text has run. -/
def Machine.initial : Machine := Setup.initial.machine

/-- Runs a computation on a machine. -/
def Machine.perform {α : Type} (m : Machine) (act : Script α) : EStateM.Result Abort Machine α :=
  act (callsAt library nestingLimit) m

end ScriptHost.ProtoScript
