import ScriptHost.TableScript.Number

/-!
# Code of the table-based language

Program text is translated into instructions for a machine with registers.  The first registers of an
activation hold the local variables in order of their declaration, the ones above them intermediate
values.

* `Val` — the values that scripts compute with.
* `Origin` — what a message says of where a value came from.
* `Instr` — the instructions.
* `Code` — the translation of one function.
-/

namespace ScriptHost.TableScript

open Text (Bytes)

/-! ## Values -/

/-- A value of a script. -/
inductive Val where
  | nil
  | bool (b : Bool)
  | int (i : Int64)
  | num (x : Float)
  /-- Not a number, without the sign that an undefined operation gives it. -/
  | unsignedNan
  | str (s : Bytes)
  /-- A table, by its index among the tables. -/
  | table (id : Nat)
  /-- A function, by its index among the functions. -/
  | function (id : Nat)
  /-- A coroutine, by its index among the threads. -/
  | thread (id : Nat)
  /-- An error of the host, by its index among the errors. -/
  | failure (id : Nat)
  /-- An open file of the system, by its number. -/
  | file (number : Nat)
  /-- In registers only: a variable that functions share, by its index among the cells. -/
  | cell (id : Nat)
deriving Inhabited

namespace Val

/-- A text. -/
def ofString (s : String) : Val := .str (Bytes.ofString s)

/-- A natural number. -/
def ofNat (n : Nat) : Val := .int (.ofNat n)

/-- Everything but `nil` and `false` counts as true. -/
def isTrue : Val → Bool
  | nil | bool false => false
  | _ => true

def isNil : Val → Bool
  | nil => true
  | _ => false

/-- The double of a float. -/
def float? : Val → Option Float
  | num x => some x
  | unsignedNan => some Number.nan
  | _ => none

/-- The double nearest to a number. -/
def number? : Val → Option Float
  | int i => some (Number.ofInteger i)
  | v => v.float?

def isNumber : Val → Bool
  | int _ | num _ | unsignedNan => true
  | _ => false

/-- Numbers and texts. -/
def isTextual : Val → Bool
  | str _ => true
  | v => v.isNumber

/-- The name of a value's type. -/
def typeName : Val → String
  | nil => "nil"
  | bool _ => "boolean"
  | int _ | num _ | unsignedNan => "number"
  | str _ => "string"
  | table _ => "table"
  | function _ => "function"
  | thread _ => "thread"
  | failure _ | file _ | cell _ => "userdata"

/-- Equality without regard to what a table says of itself. -/
def rawEqual : Val → Val → Bool
  | nil, nil => true
  | bool a, bool b => a == b
  | int i, int j => i == j
  | int i, num x | num x, int i => Number.eqIntFloat i x
  | num x, num y => x == y
  | str s, str t => s == t
  | table i, table j => i == j
  | function i, function j => i == j
  | thread i, thread j => i == j
  | failure i, failure j => i == j
  | file i, file j => i == j
  | _, _ => false

/-- The text of a number or text. -/
def text? : Val → Option Bytes
  | str s => some s
  | int i => some (.ofString (Number.intText i))
  | num x => some (.ofString (Number.floatText x))
  | unsignedNan => some (.ofString "nan")
  | _ => none

/-- The number that a parsed text stands for. -/
def ofParsed : Int64 ⊕ Float → Val
  | .inl i => int i
  | .inr x => num x

/-- A number, or the number that a text stands for. -/
def toNumber? : Val → Option Val
  | str s => (Number.parse? s).map ofParsed
  | v => if v.isNumber then some v else none

/-- The integer that a number stands for. -/
def exactInteger? : Val → Option Int64
  | int i => some i
  | num x => Number.toInteger? x
  | _ => none

/-- The integer that a number or a text stands for. -/
def toInteger? (v : Val) : Option Int64 := v.toNumber?.bind exactInteger?

end Val

/-! ## Instructions -/

/-- What a message says of where a value came from. -/
inductive Origin where
  | unknown
  | localVar (name : Bytes)
  | upvalue (name : Bytes)
  | global (name : Bytes)
  | field (name : Bytes)
  | method (name : Bytes)
  | constant (text : Bytes)
  /-- The function that a loop calls for the next values. -/
  | loop
  /-- A function that stands for an operation, by the name of the operation. -/
  | operation (name : String)
deriving Inhabited

/-- The kind and the name that a message shows. -/
def Origin.words? : Origin → Option (String × Bytes)
  | unknown => none
  | localVar name => some ("local", name)
  | upvalue name => some ("upvalue", name)
  | global name => some ("global", name)
  | field name => some ("field", name)
  | method name => some ("method", name)
  | constant text => some ("constant", text)
  | loop => some ("for iterator", .ofString "for iterator")
  | operation name => some ("metamethod", .ofString name)

/-- Where an instruction finds a value. -/
inductive Operand where
  | reg (r : Nat)
  | const (v : Val)
deriving Inhabited

/-- Where an instruction finds a table. -/
inductive Place where
  | reg (r : Nat)
  | upvalue (i : Nat)
deriving Inhabited

/-- Operations on two values that compute a new one. -/
inductive ArithOp where
  | add | sub | mul | mod | pow | div | floorDiv | bitAnd | bitOr | bitXor | shiftLeft | shiftRight
deriving DecidableEq, Inhabited

/-- Operations on one value. -/
inductive UnaryOp where
  | minus | bitNot | not | length
deriving DecidableEq, Inhabited

/-- Comparisons.  The others are one of these with operands or answer exchanged. -/
inductive CompareOp where
  | equal | less | lessEqual
deriving DecidableEq, Inhabited

/-- A function's variable that belongs to the code around it. -/
inductive Capture where
  /-- A local variable of the code around the function. -/
  | localVar (r : Nat)
  /-- A variable that the code around the function has captured itself. -/
  | upvalue (i : Nat)
deriving Inhabited

/-- Values that an instruction takes: some registers, and after them the open values if there are any.
The open values are all that the instruction before has left. -/
structure Values where
  count : Nat
  andOpen : Bool := false
deriving Inhabited

/-- An instruction.  A jump goes to the place of an instruction.  A number of results that is missing
leaves all of them open. -/
inductive Instr where
  | nop
  /-- Gives a register a new value. -/
  | load (dst : Nat) (src : Operand)
  /-- Makes several registers `nil`. -/
  | loadNil (dst count : Nat)
  /-- Assigns to a local variable. -/
  | assign (dst : Nat) (src : Operand)
  | getUpvalue (dst i : Nat)
  | setUpvalue (i : Nat) (src : Operand)
  | getIndex (dst : Nat) (table : Place) (key : Operand) (origin : Origin)
  | setIndex (table : Place) (key value : Operand) (origin : Origin)
  /-- Finds a method: the function goes to `dst` and the object to the register above. -/
  | self (dst : Nat) (object key : Operand) (origin : Origin)
  /-- A new table with room for list items and other entries. -/
  | newTable (dst items entries : Nat)
  /-- Stores the registers above `table` as list items after the first `skip` ones. -/
  | setList (table : Nat) (items : Values) (skip : Nat)
  | arith (op : ArithOp) (dst : Nat) (left right : Operand) (leftOrigin rightOrigin : Origin)
  | unary (op : UnaryOp) (dst : Nat) (src : Operand) (origin : Origin)
  /-- Concatenates registers from `dst` on. -/
  | concat (dst count : Nat) (origins : Array Origin)
  | compare (op : CompareOp) (negate : Bool) (dst : Nat) (left right : Operand)
  | closure (dst code : Nat)
  /-- Calls the function in `base` with the values above it. -/
  | call (base : Nat) (args : Values) (results : Option Nat) (origin : Origin)
  /-- Calls a function in the place of the present one. -/
  | tailCall (base : Nat) (args : Values) (origin : Origin)
  | ret (base : Nat) (values : Values)
  /-- The surplus arguments of the function. -/
  | varargs (dst : Nat) (count : Option Nat)
  | jump (target : Nat)
  | jumpIf (cond : Bool) (src : Operand) (target : Nat)
  /-- Checks the three registers of a counting loop; past the loop if it has no turn. -/
  | forPrepare (base target : Nat)
  /-- Counts on; to the body if there is another turn. -/
  | forNext (base target : Nat)
  /-- Calls the function of a loop over values. -/
  | loopCall (base count : Nat)
  /-- To the body if the first value of the turn is not `nil`. -/
  | loopNext (base target : Nat)
  /-- The value of a register is to be closed when its variable ends. -/
  | markClose (r : Nat) (name : Bytes)
  /-- Closes the values of all marked registers from `r` on. -/
  | close (r : Nat)
deriving Inhabited

/-- The translation of one function. -/
structure Code where
  /-- The name of the text, as messages show it. -/
  source : Bytes := Bytes.empty
  /-- The line where the function begins; 0 for a whole text. -/
  line : Nat := 0
  paramCount : Nat := 0
  isVararg : Bool := false
  /-- The number of registers. -/
  frameSize : Nat := 2
  captures : Array Capture := #[]
  upvalueNames : Array Bytes := #[]
  instrs : Array Instr := #[]
  /-- The line of each instruction. -/
  lines : Array Nat := #[]
deriving Inhabited

/-- The line of an instruction. -/
def Code.lineAt (c : Code) (pc : Nat) : Nat := c.lines.getD pc 0

end ScriptHost.TableScript
