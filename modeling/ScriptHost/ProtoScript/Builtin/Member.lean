import ScriptHost.ProtoScript.Run

/-!
# Functions of the machine and where they are found

* `Member` — a function of the machine as a property of an object.
* `ClassSpec` — a constructor with what belongs to it and to its prototype.
-/

namespace ScriptHost.ProtoScript

open Text (Units)

/-- A function of the machine as a property of an object. -/
structure Member where
  key : Key
  native : Native
  role : MethodRole := .method
  /-- The place of the function in the heap, if it has a fixed one. -/
  place : Option Intrinsic := none

instance : Inhabited Member := ⟨⟨.name "", default, .method, none⟩⟩

namespace Member

/-- A method that does not care how it is called. -/
def method (name : String) (length : Nat) (run : Val → Array Val → Script Val) : Member :=
  ⟨.name name, ⟨name, length, fun this args _ => run this args⟩, .method, none⟩

/-- A method whose key is a symbol. -/
def symbolMethod (w : WellKnown) (length : Nat) (run : Val → Array Val → Script Val) : Member :=
  let name := "[Symbol." ++ WellKnown.names.getD w.id "" ++ "]"
  ⟨w.key, ⟨name, length, fun this args _ => run this args⟩, .method, none⟩

/-- A getter. -/
def getter (name : String) (run : Val → Script Val) : Member :=
  ⟨.name name, ⟨"get " ++ name, 0, fun this _ _ => run this⟩, .getter, none⟩

/-- A setter. -/
def setter (name : String) (run : Val → Val → Script Val) : Member :=
  ⟨.name name, ⟨"set " ++ name, 1, fun this args _ => run this (args.getD 0 .undefined)⟩, .setter,
    none⟩

/-- A getter that answers `this`, as classes have it. -/
def speciesGetter : Member :=
  ⟨WellKnown.species.key, ⟨"get [Symbol.species]", 0, fun this _ _ => return this⟩, .getter, none⟩

end Member

/-- A constructor with what belongs to it and to its prototype. -/
structure ClassSpec where
  constructor : Native
  proto : Intrinsic
  statics : List Member := []
  methods : List Member := []
  /-- Further fixed properties of the constructor. -/
  constants : List (String × Val) := []
  /-- The parent class, for errors. -/
  parent : Option String := none

/-- An object with members that is no class. -/
structure Namespace where
  /-- The name of a global variable that holds it. -/
  name : Option String
  /-- Its place in the heap, if it has a fixed one. -/
  home : Option Intrinsic
  members : List Member
  constants : List (String × Val) := []
  tag : Option String := none

/-- An argument. -/
def arg (args : Array Val) (i : Nat) : Val := args.getD i .undefined

namespace Script

/-- The function of the machine that is running. -/
def activeFunction : Script Val := return (← MonadState.get).natives.headD .undefined

/-- Whether a class other than the running constructor itself asks for an object. -/
def forSubclass (target : Val) : Script Bool := do
  if target.isUndefined then return false
  return !strictlyEqual target (← activeFunction)

/-- An index relative to a length: negative ones count from the end. -/
def relative (x : Float) (n : Nat) : Nat :=
  if x < 0 then
    let y := n.toFloat + x
    if y < 0 then 0 else y.toUInt64.toNat
  else if x > n.toFloat then n else x.toUInt64.toNat

/-- A relative index from an argument, with a default for `undefined`. -/
def relativeArg (v : Val) (n default0 : Nat) : Script Nat := do
  if v.isUndefined then return default0
  return relative (← toWhole v) n

/-- Fails unless a value is a function. -/
def requireFunction (v : Val) : Script Unit := do
  if !(← MonadState.get).isCallable v then throwType "not a function"

/-- An array of texts. -/
def arrayOfTexts (texts : Array String) : Script Val := newArray (texts.map Val.ofString)

end Script

end ScriptHost.ProtoScript
