import ScriptHost.ProtoScript.Code
import ScriptHost.Engine

/-!
# Objects, scopes and the state of a machine

The state of a script machine is plain data: a heap of objects, scopes with variables, the code
seen so far, and what is running.  References are indices, so the state can be copied and compared.

* `Key`, `Property`, `Obj` — objects and their properties, in the order of their creation.
* `Kind` — what an object has beside its properties.
* `Scope` — variables, and where to look further.
* `Frame` — one activation of a piece of code.
* `Machine` — the whole state.
* `Script` — a computation on the state that may throw.
-/

namespace ScriptHost.ProtoScript

open Text (Units)

/-! ## Objects -/

/-- The key of a property. -/
inductive Key where
  | name (s : String)
  | symbol (id : Nat)
deriving DecidableEq, Inhabited

/-- What a property holds. -/
inductive Slot where
  | value (v : Val) (writable : Bool)
  /-- A getter and a setter; `undefined` for one that is missing. -/
  | accessor (getter setter : Val)
deriving Inhabited

structure Property where
  slot : Slot
  enumerable : Bool
  configurable : Bool
deriving Inhabited

/-- A property as an assignment makes it. -/
def Property.plain (v : Val) : Property := ⟨.value v true, true, true⟩

/-- A property that is left out of enumerations. -/
def Property.hidden (v : Val) : Property := ⟨.value v true, false, true⟩

/-- A property that can neither be changed nor enumerated. -/
def Property.fixed (v : Val) : Property := ⟨.value v false, false, false⟩

/-- A function value: its code and the scope where it was made. -/
structure Closure where
  code : Nat
  scope : Nat
  /-- The object whose prototype `super` refers to. -/
  home : Val := .undefined
  /-- The function that defines the fields of a class. -/
  fields : Val := .undefined
deriving Inhabited

/-- Where an error goes: to a label, or to the iterator on the stack, which is then closed. -/
structure Handler where
  label : Option Nat
  /-- The number of operands below. -/
  height : Nat
  scope : Nat
deriving Inhabited

/-- Why a code runs. -/
inductive Purpose where
  | call
  /-- To make an object, for a class. -/
  | construct
  /-- To produce the values of a generator. -/
  | generate
deriving DecidableEq, Inhabited

/-- How a generator is resumed. -/
inductive Resumption where
  | next (v : Val)
  | throwing (v : Val)
  | returning (v : Val)
deriving Inhabited

/-- One activation of a piece of code. -/
structure Frame where
  code : Code := {}
  /-- The present instruction. -/
  pc : Nat := 0
  stack : Array Val := #[]
  scope : Nat := 0
  handlers : List Handler := []
  /-- The function that runs; `empty` outside all code. -/
  callee : Val := .empty
  args : Array Val := #[]
  purpose : Purpose := .call
  /-- The activation was begun by something other than code. -/
  entry : Bool := false
  /-- The value of the program so far. -/
  completion : Val := .undefined
  /-- The iterator whose values a generator hands on, and its method. -/
  delegate : Option (Val × Val) := none
  /-- How the generator was resumed, and with which value. -/
  sent : Resumption := .next .undefined
deriving Inhabited

/-- Which part of the entries an iterator produces. -/
inductive Part where
  | keys | values | entries
deriving DecidableEq, Inhabited

/-- How far a generator has come. -/
inductive Progress where
  | suspended (frame : Frame) (started : Bool)
  | running
  | finished
deriving Inhabited

/-- What is known of a promise. -/
inductive Settlement where
  | pending
  | fulfilled (v : Val)
  | rejected (v : Val)
deriving Inhabited

/-- What an object has beside its properties. -/
inductive Kind where
  | ordinary
  /-- An array; its elements are kept apart from its properties. -/
  | array (length : Nat) (writable : Bool)
  | function (c : Closure)
  /-- A function of the machine, by its number. -/
  | native (index : Nat)
  /-- A function of the host. -/
  | host (f : HostFunction)
  | bound (target this : Val) (args : Array Val)
  | error
  /-- A boolean, number, string, symbol or big integer as an object. -/
  | wrapper (v : Val)
  /-- A date in milliseconds. -/
  | date (time : Float)
  | regexp (r : Regex) (source : Units)
  /-- The entries of a map in order; removed ones stay as holes for the sake of iterators. -/
  | map (entries : Array (Val × Val)) (weak : Bool)
  | setOf (entries : Array Val) (weak : Bool)
  /-- The arguments of a call; some elements stand for variables of a scope. -/
  | arguments (scope : Nat) (mapped : Array (Option String))
  | generator (p : Progress)
  /-- A generator whose values have to be waited for. -/
  | asyncGenerator
  | promise (s : Settlement)
  | arrayIterator (target : Val) (next : Nat) (part : Part)
  | stringIterator (text : Units) (next : Nat)
  | mapIterator (target : Nat) (next : Nat) (part : Part)
  | setIterator (target : Nat) (next : Nat) (part : Part)
  /-- The names that a loop over an object goes through, with the object. -/
  | names (target : Val) (rest : List String)
deriving Inhabited

/-- An object. -/
structure Obj where
  proto : Option Nat
  kind : Kind := .ordinary
  props : Array (Key × Property) := #[]
  /-- The elements of arrays and argument objects; a hole is `empty`. -/
  elements : Array Val := #[]
  extensible : Bool := true
deriving Inhabited

/-! ## Scopes -/

/-- What an assignment to a variable does. -/
inductive Mutability where
  | variable
  | constant
  /-- The name of a function in itself: an assignment is ignored, or refused by strict code. -/
  | ownName
deriving DecidableEq, Inhabited

/-- A variable; `empty` before its initialization. -/
structure Binding where
  name : String
  value : Val
  mutability : Mutability := .variable
deriving Inhabited

inductive ScopeKind where
  | block
  /-- The scope of a function that has a `this` of its own. -/
  | function (this callee newTarget : Val)
  /-- The scope of a function or program that shares `this` with the code around it. -/
  | body
  /-- The properties of an object are variables. -/
  | object (o : Val)
  /-- The outermost scope; the properties of the global object come after its variables. -/
  | global
deriving Inhabited

structure Scope where
  parent : Nat
  kind : ScopeKind := .block
  bindings : Array Binding := #[]
deriving Inhabited

/-! ## The state -/

/-- A symbol. -/
structure SymbolInfo where
  description : Option String
  /-- A private name of a class. -/
  isPrivate : Bool := false
  /-- The symbol belongs to the table of shared symbols. -/
  isShared : Bool := false
deriving Inhabited

/-- Code that waits for a call to return, and the functions of the machine that it has called. -/
structure Activation where
  frame : Frame
  natives : List Val := []
deriving Inhabited

/-- The state of a machine. -/
structure Machine where
  heap : Array Obj := #[]
  scopes : Array Scope := #[]
  codes : Array Code := #[]
  symbols : Array SymbolInfo := #[]
  /-- The code that is running. -/
  frame : Frame := {}
  /-- Functions of the machine that the running code has called, the latest first. -/
  natives : List Val := []
  callers : List Activation := []
  /-- The number of callers. -/
  depth : Nat := 0
  host : Host := {}
deriving Inhabited

/-- Why a computation ended early. -/
inductive Abort where
  | thrown (v : Val)
  /-- The computation took more steps than are admitted. -/
  | exhausted
deriving Inhabited

/-- What functions of the machine ask of the machine itself. -/
structure Calls where
  /-- Runs a function of the machine: its number, `this`, the arguments and the class asked for. -/
  native : Nat → Val → Array Val → Val → EStateM Abort Machine Val
  /-- Calls a function: the function, `this` and the arguments. -/
  call : Val → Val → Array Val → EStateM Abort Machine Val
  /-- Makes an object: the function, the arguments and the class asked for. -/
  construct : Val → Array Val → Val → EStateM Abort Machine Val
  /-- Evaluates text as a program in the global scope. -/
  evaluate : String → EStateM Abort Machine Val
  /-- Makes a function of parameters and a body. -/
  makeFunction : FunctionKind → String → String → EStateM Abort Machine Val
  /-- Goes on with a generator.  Answers a value and whether the generator has ended. -/
  resume : Nat → Resumption → EStateM Abort Machine (Val × Bool)

/-- A computation on the state of a machine. -/
abbrev Script := ReaderT Calls (EStateM Abort Machine)

/-! ## Objects that are always there -/

/-- The objects that every machine starts with, in the order of the heap. -/
inductive Intrinsic where
  | global | objectProto | functionProto | arrayProto | stringProto | numberProto | booleanProto
  | symbolProto | bigintProto | errorProto | syntaxErrorProto | referenceErrorProto
  | typeErrorProto | rangeErrorProto | uriErrorProto | evalErrorProto | internalErrorProto
  | aggregateErrorProto | regexpProto | dateProto | mapProto | setProto | weakMapProto
  | weakSetProto | promiseProto | iteratorProto | arrayIteratorProto | stringIteratorProto
  | mapIteratorProto | setIteratorProto | generatorProto | generatorFunctionProto
  | asyncFunctionProto | asyncGeneratorProto | asyncGeneratorFunctionProto
  | throwTypeError | arrayValues | promiseFulfil | promiseReject | evalFunction

/-- The place of an object that is always there. -/
def Intrinsic.id (i : Intrinsic) : Nat := i.ctorIdx

/-- The number of objects that are always there. -/
def Intrinsic.count : Nat := Intrinsic.evalFunction.id + 1

/-- An object that is always there, as a value. -/
def Intrinsic.val (i : Intrinsic) : Val := .obj i.id

/-- The prototype of the errors of a class. -/
def ErrorKind.proto : ErrorKind → Intrinsic
  | .error => .errorProto
  | .syntaxError => .syntaxErrorProto
  | .referenceError => .referenceErrorProto
  | .typeError => .typeErrorProto
  | .rangeError => .rangeErrorProto
  | .uriError => .uriErrorProto
  | .evalError => .evalErrorProto
  | .internalError => .internalErrorProto
  | .aggregateError => .aggregateErrorProto

/-- The symbols that the language itself uses, in the order of the table of symbols. -/
inductive WellKnown where
  | iterator | asyncIterator | hasInstance | toPrimitive | toStringTag | unscopables | species
  | isConcatSpreadable | matchOne | matchAll | replace | search | split

def WellKnown.id (w : WellKnown) : Nat := w.ctorIdx

/-- The key of a symbol that the language itself uses. -/
def WellKnown.key (w : WellKnown) : Key := .symbol w.id

/-- The names of the symbols that the language itself uses. -/
def WellKnown.names : List String :=
  ["iterator", "asyncIterator", "hasInstance", "toPrimitive", "toStringTag", "unscopables",
    "species", "isConcatSpreadable", "match", "matchAll", "replace", "search", "split"]

end ScriptHost.ProtoScript
