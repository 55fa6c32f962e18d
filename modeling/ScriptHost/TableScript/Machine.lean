import ScriptHost.Engine
import ScriptHost.TableScript.Table

/-!
# The state of a machine

The state of a machine is plain data: tables, functions, shared variables, coroutines, and what is
running.  References are indices, so the state can be copied and compared.

* `Callee` — what a function value calls.
* `Frame` — one activation of a code, with its registers.
* `Landing` — where the results of a call go.
* `Stack` — activations and what waits above them.
* `Machine` — the whole state.
* `Script` — a computation on the state that may raise an error.
-/

namespace ScriptHost.TableScript

open Text (Bytes)

/-! ## Functions -/

/-- What a function value calls. -/
inductive Callee where
  /-- A function of a script: its code, and the cells of the variables that it shares. -/
  | script (code : Nat) (upvalues : Array Nat)
  /-- A function of the machine, by its number, with values that it keeps between calls. -/
  | native (index : Nat) (held : Array Val)
  | host (f : HostFunction)
  /-- Calls its argument and answers whether that raised an error. -/
  | protectedCall
  /-- The same with a function that is given the error. -/
  | guardedCall
  /-- Suspends the running coroutine. -/
  | suspension
deriving Inhabited

/-! ## Activations -/

/-- Where the results of a call go. -/
inductive Landing where
  /-- Nowhere. -/
  | drop
  /-- The first one goes to a register. -/
  | first (dst : Nat)
  /-- Some go to registers; missing ones are `nil`. -/
  | fixed (dst count : Nat)
  /-- All stay open for the next instruction. -/
  | opened
  /-- Whether the first one is true goes to a register, or the opposite. -/
  | truth (negate : Bool) (dst : Nat)
  /-- The first one takes the place of two of the values that are being concatenated. -/
  | piece (dst left : Nat)
  /-- Nowhere, and the instruction is repeated. -/
  | again
deriving Inhabited

/-- One activation of a code. -/
structure Frame where
  code : Code := {}
  /-- The function that runs; `none` below all activations. -/
  callee : Option Nat := none
  /-- The present instruction. -/
  pc : Nat := 0
  regs : Array Val := #[]
  upvalues : Array Nat := #[]
  varargs : Array Val := #[]
  /-- The open values. -/
  openValues : Array Val := #[]
  landing : Landing := .drop
  /-- Registers whose values are to be closed, the latest first, with the names of their variables. -/
  marked : List (Nat × Bytes) := []
  /-- How many of the values that are being concatenated are left. -/
  joining : Option Nat := none
  /-- The activation took the place of another one. -/
  isTail : Bool := false
  /-- The activation was begun by something other than a call in code. -/
  isNested : Bool := false
deriving Inhabited

/-- What waits above an activation. -/
inductive Pending where
  /-- A function of the machine that is running. -/
  | native (f : Nat)
  /-- A call whose errors are caught, with the function that is given the error. -/
  | guarded (f : Nat) (handler : Option Val)
  /-- Something other than code waits for the results. -/
  | entry
deriving Inhabited

/-- An activation that waits, with what waits above it. -/
structure Activation where
  frame : Frame
  above : List Pending
deriving Inhabited

structure Stack where
  frame : Frame := {}
  above : List Pending := []
  callers : List Activation := []
  /-- The number of registers of all activations. -/
  size : Nat := 0
deriving Inhabited

/-- How far a coroutine has come. -/
inductive Progress where
  /-- It has not begun to call its function. -/
  | fresh (f : Val)
  | suspended (stack : Stack)
  | running
  /-- It has resumed another coroutine. -/
  | normal
  /-- It has ended, with an error or without one. -/
  | dead (error : Option Val)
deriving Inhabited

/-- An error made by the host. -/
structure HostFailure where
  message : Bytes
  /-- The activations when it was made. -/
  trace : Bytes
deriving Inhabited

/-! ## The machine -/

/-- The state of a machine. -/
structure Machine where
  tables : Array Table := #[]
  functions : Array Callee := #[]
  cells : Array Val := #[]
  /-- The coroutines; the first one stands for what is none. -/
  threads : Array Progress := #[.running]
  failures : Array HostFailure := #[]
  codes : Array Code := #[]
  stack : Stack := {}
  /-- The coroutine that is running. -/
  current : Nat := 0
  /-- The number of calls that are nested in something other than code. -/
  depth : Nat := 0
  /-- The activations when an error was raised that nothing catches. -/
  trace : Option Bytes := none
  /-- The state of the generator of random numbers. -/
  random : Array UInt64 := #[0, 0, 0, 0]
  host : Host := {}
deriving Inhabited

/-- Why a computation ended early. -/
inductive Abort where
  | thrown (v : Val)
  /-- The computation took more steps than are admitted. -/
  | exhausted
deriving Inhabited

/-- How a coroutine came to rest. -/
inductive Rest where
  | answered (vs : Array Val)
  | raised (v : Val)

/-- What functions of the machine ask of the machine itself. -/
structure Calls where
  /-- Runs a function of the machine: its number, the function itself, and the arguments. -/
  native : Nat → Nat → Array Val → EStateM Abort Machine (Array Val)
  /-- Calls a function and answers all results. -/
  call : Val → Array Val → EStateM Abort Machine (Array Val)
  /-- Goes on with a coroutine until it comes to rest. -/
  resume : Nat → Array Val → EStateM Abort Machine Rest
  /-- Ends a suspended coroutine, closing its values. -/
  finish : Nat → EStateM Abort Machine Rest

/-- A computation on the state of a machine. -/
abbrev Script := ReaderT Calls (EStateM Abort Machine)

/-! ## Tables that are always there -/

/-- The table of global variables. -/
def globalTable : Nat := 0

/-- The table of loaded libraries. -/
def loadedTable : Nat := 1

/-- The table of what texts can do. -/
def textMetatable : Nat := 2

/-- The table of what open files can do. -/
def fileMetatable : Nat := 3

/-! ## Events -/

/-- What a table can say of itself, by the names of its metatable's fields. -/
inductive Event where
  | index | newIndex | call | add | sub | mul | mod | pow | div | floorDiv | bitAnd | bitOr | bitXor
  | shiftLeft | shiftRight | concat | minus | bitNot | length | equal | less | lessEqual | close
  | text | name | pairs | protection
deriving DecidableEq, Inhabited

/-- The word of an event, as messages show it. -/
def Event.word : Event → String
  | index => "index"
  | newIndex => "newindex"
  | call => "call"
  | add => "add"
  | sub => "sub"
  | mul => "mul"
  | mod => "mod"
  | pow => "pow"
  | div => "div"
  | floorDiv => "idiv"
  | bitAnd => "band"
  | bitOr => "bor"
  | bitXor => "bxor"
  | shiftLeft => "shl"
  | shiftRight => "shr"
  | concat => "concat"
  | minus => "unm"
  | bitNot => "bnot"
  | length => "len"
  | equal => "eq"
  | less => "lt"
  | lessEqual => "le"
  | close => "close"
  | text => "tostring"
  | name => "name"
  | pairs => "pairs"
  | protection => "metatable"

/-- The key of an event in a metatable. -/
def Event.key (e : Event) : Val := .ofString ("__" ++ e.word)

/-- The event of an operation. -/
def ArithOp.event : ArithOp → Event
  | add => .add
  | sub => .sub
  | mul => .mul
  | mod => .mod
  | pow => .pow
  | div => .div
  | floorDiv => .floorDiv
  | bitAnd => .bitAnd
  | bitOr => .bitOr
  | bitXor => .bitXor
  | shiftLeft => .shiftLeft
  | shiftRight => .shiftRight

/-- The event of a comparison. -/
def CompareOp.event : CompareOp → Event
  | equal => .equal
  | less => .less
  | lessEqual => .lessEqual

/-- The name of the function that an instruction calls, as messages show it. -/
def Instr.calls : Instr → Origin
  | call _ _ _ origin | tailCall _ _ origin => origin
  | loopCall _ _ => .loop
  | getIndex .. | self .. => .operation Event.index.word
  | setIndex .. => .operation Event.newIndex.word
  | arith op .. => .operation op.event.word
  | compare op .. => .operation op.event.word
  | unary .minus .. => .operation Event.minus.word
  | unary .bitNot .. => .operation Event.bitNot.word
  | unary .length .. => .operation Event.length.word
  | concat .. => .operation Event.concat.word
  | close _ | ret _ _ => .operation Event.close.word
  | _ => .unknown

/-! ## Reading the state -/

namespace Machine

/-- A table. -/
def tableAt (m : Machine) (id : Nat) : Table := m.tables.getD id {}

/-- The code of a function. -/
def codeAt (m : Machine) (id : Nat) : Code := m.codes.getD id {}

/-- The metatable of a value. -/
def metatable? (m : Machine) : Val → Option Nat
  | .table id => (m.tableAt id).metatable
  | .str _ => some textMetatable
  | .file _ => some fileMetatable
  | _ => none

/-- What the metatable of a value has for an event. -/
def handler (m : Machine) (v : Val) (e : Event) : Val :=
  match m.metatable? v with
  | some mt => (m.tableAt mt).get e.key
  | none => .nil

/-- The name of a value's type; a metatable can give another one. -/
def typeNameOf (m : Machine) (v : Val) : String :=
  match v with
  | .table _ | .file _ => match m.handler v .name with
    | .str s => s.toString
    | _ => v.typeName
  | _ => v.typeName

end Machine

/-! ## Levels of activation -/

/-- An active function, and how its caller calls it. -/
structure Level where
  /-- The function; none for one that the host brings along. -/
  callee : Option Nat
  /-- The code and the present line. -/
  code : Option (Code × Nat)
  origin : Origin := .unknown
  isTail : Bool := false
deriving Inhabited

namespace Stack

/-- The functions that wait above an activation. -/
def pendingLevels : List Pending → List Level
  | [] => []
  | .native f :: rest | .guarded f _ :: rest =>
    { callee := some f, code := none } :: pendingLevels rest
  | .entry :: rest => pendingLevels rest

/-- What the code of an activation says of the function it calls. -/
def calls (f : Frame) : Origin :=
  if f.callee.isNone then .unknown else (f.code.instrs.getD f.pc .nop).calls

/-- Lets the last of some levels be called by the code of an activation. -/
def calledBy (f : Frame) (levels : List Level) : List Level :=
  match levels.reverse with
  | last :: before => ({ last with origin := calls f } :: before).reverse
  | [] => []

/-- The level of an activation, if it is one. -/
def frameLevel (f : Frame) (callers : List Activation) : List Level :=
  match f.callee with
  | none => []
  | some id =>
    let origin := match callers with
      | a :: _ => if a.above.isEmpty && !f.isTail then calls a.frame else .unknown
      | [] => .unknown
    [{ callee := some id, code := some (f.code, f.code.lineAt f.pc), origin, isTail := f.isTail }]

/-- The levels of an activation and of what waits above it. -/
def levelsAt (f : Frame) (above : List Pending) (callers : List Activation) : List Level :=
  calledBy f (pendingLevels above) ++ frameLevel f callers

/-- The levels of what waits. -/
def callerLevels : List Activation → List Level
  | [] => []
  | a :: rest => levelsAt a.frame a.above rest ++ callerLevels rest

/-- All active functions, the latest first. -/
def levels (s : Stack) : List Level := levelsAt s.frame s.above s.callers ++ callerLevels s.callers

end Stack

end ScriptHost.TableScript
