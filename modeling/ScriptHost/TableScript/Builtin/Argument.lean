import ScriptHost.TableScript.Run

/-!
# Arguments of the machine's functions

Arguments are counted from 0 here and from 1 in messages.  A text that stands for a number counts as
that number, and a number as its text.

* `anyArg`, `integerArg`, `floatArg`, `textArg`, `tableArg`, `functionArg` — an argument of some kind.
* `integerOr`, `textOr` — one that may be missing or `nil`.
* `choiceArg` — one of some words.
* `displayText` — the text that a value shows itself as.
* `FunctionGroup` — a table of functions under one name.
-/

namespace ScriptHost.TableScript.Builtin

open Text (Bytes)
open Script

/-- A table of functions under one name, with what else belongs to it. -/
structure FunctionGroup where
  name : String
  natives : List Native
  constants : List (String × Val) := []

/-! ## Kinds of arguments -/

/-- An argument, if it is there. -/
def given? (args : Array Val) (i : Nat) : Option Val := args[i]?

/-- Whether an argument is missing or `nil`. -/
def isAbsent (args : Array Val) (i : Nat) : Bool := (args.getD i .nil).isNil

/-- An argument that may be any value but has to be there. -/
def anyArg (args : Array Val) (i : Nat) : Script Val := do
  match given? args i with
  | some v => return v
  | none => failArgument (i + 1) "value expected"

/-- Refuses an argument unless a condition holds. -/
def require (holds : Bool) (i : Nat) (message : String) : Script Unit := do
  if !holds then failArgument (i + 1) message

def integerArg (args : Array Val) (i : Nat) : Script Int64 := do
  let v := args.getD i .nil
  match v.toInteger? with
  | some n => return n
  | none =>
    if v.toNumber?.isSome then failArgument (i + 1) "number has no integer representation"
    else failType args i "number"

def integerOr (args : Array Val) (i : Nat) (missing : Int64) : Script Int64 :=
  if isAbsent args i then return missing else integerArg args i

/-- A number of either kind. -/
def numberArg (args : Array Val) (i : Nat) : Script Val := do
  match (args.getD i .nil).toNumber? with
  | some v => return v
  | none => failType args i "number"

/-- A number as a double. -/
def floatArg (args : Array Val) (i : Nat) : Script Float :=
  return (← numberArg args i).number?.getD 0

def textArg (args : Array Val) (i : Nat) : Script Bytes := do
  match (args.getD i .nil).text? with
  | some s => return s
  | none => failType args i "string"

def textOr (args : Array Val) (i : Nat) (missing : Bytes) : Script Bytes :=
  if isAbsent args i then return missing else textArg args i

/-- A table, by its index. -/
def tableArg (args : Array Val) (i : Nat) : Script Nat := do
  match args.getD i .nil with
  | .table id => return id
  | _ => failType args i "table"

def functionArg (args : Array Val) (i : Nat) : Script Val := do
  match args.getD i .nil with
  | .function id => return .function id
  | _ => failType args i "function"

/-- A coroutine, by its index. -/
def threadArg (args : Array Val) (i : Nat) : Script Nat := do
  match args.getD i .nil with
  | .thread id => return id
  | _ => failType args i "coroutine"

/-- One of some words. -/
def choiceArg (args : Array Val) (i : Nat) (missing : Option String) (choices : List String) :
    Script String := do
  let s ← match missing with
    | some word => textOr args i (.ofString word)
    | none => textArg args i
  match choices.find? fun c => Bytes.ofString c == s.untilZero with
  | some c => return c
  | none => failArgument (i + 1) ("invalid option '" ++ s.untilZero.toString ++ "'")

/-! ## Results -/

/-- The value of a condition. -/
def truth (b : Bool) : Array Val := #[.bool b]

/-- The value and message of something that was refused. -/
def refusal (message : Bytes) : Array Val := #[.nil, .str message]

/-! ## The state of a function -/

/-- The values that a function of the machine keeps. -/
def heldBy (f : Nat) : Script (Array Val) := do
  match (← MonadState.get).functions[f]? with
  | some (.native _ held) => return held
  | _ => return #[]

/-- Replaces the values that a function of the machine keeps. -/
def hold (f : Nat) (held : Array Val) : Script Unit := modify fun m =>
  { m with functions := m.functions.modify f fun
    | .native index _ => .native index held
    | c => c }

/-- A function of the machine that keeps values; `index` is its number. -/
def holder (index : Nat) (held : Array Val) : Script Val := newFunction (.native index held)

/-! ## Texts of values -/

/-- The number that stands for the address of a value that has one. -/
def address? : Val → Option Nat
  | .table id => some (0x5581c0000000 + 64 * id)
  | .function id => some (0x5582c0000000 + 64 * id)
  | .thread id => some (0x5583c0000000 + 64 * id)
  | .failure id => some (0x5584c0000000 + 64 * id)
  | .file id => some (0x5585c0000000 + 64 * id)
  | _ => none

/-- The text of an address. -/
def addressText (n : Nat) : String := "0x" ++ String.ofList (Nat.toDigits 16 n)

/-- What a value shows of itself when its metatable has no say. -/
def plainText (m : Machine) (v : Val) : Bytes :=
  match v with
  | .nil | .cell _ => .ofString "nil"
  | .bool b => .ofString (if b then "true" else "false")
  | .failure id =>
    let failure := m.failures.getD id default
    failure.message ++ .ofString "\n" ++ failure.trace ++ .ofString "\n"
  | v => match v.text? with
    | some s => s
    | none => .ofString (m.typeNameOf v ++ ": " ++ addressText ((address? v).getD 0))

/-- The text that a value shows itself as. -/
def displayText (v : Val) : Script Bytes := do
  let m ← MonadState.get
  match m.handler v .text with
  | .nil => return plainText m v
  | f => match (← callOne f #[v]).text? with
    | some s => return s
    | none => failCall "'__tostring' must return a string"

/-! ## The order of values -/

/-- Whether one value stands before another in the order of the language. -/
def isLess (a b : Val) : Script Bool := do
  match a.less? b with
  | some r => return r
  | none =>
    match ← eitherHandler a b .less with
    | .nil => failCompare a b
    | f => return (← callOne f #[a, b]).isTrue

/-! ## Positions in texts -/

/-- A position counted from 1 where a part begins; negative ones count from the end. -/
def startPosition (pos : Int64) (size : Nat) : Nat :=
  let pos := pos.toInt
  if pos > 0 then pos.toNat
  else if pos = 0 || pos < -(size : Int) then 1
  else (size + pos + 1).toNat

/-- A position counted from 1 where a part ends. -/
def endPosition (pos : Int64) (size : Nat) : Nat :=
  let pos := pos.toInt
  if pos > size then size
  else if pos ≥ 0 then pos.toNat
  else if pos < -(size : Int) then 0
  else (size + pos + 1).toNat

end ScriptHost.TableScript.Builtin
