import ScriptHost.TableScript.Code

/-!
# The state of the parser

The parser reads a text once, from left to right, and writes the code of the innermost function as it
goes.  This module has its state and the operations that write code: instructions, registers, variables,
and the targets of jumps.

* `Token` — the tokens.
* `Exp` — what is known of an expression that was read and whose value may not have been computed yet.
* `FunctionState` — a function whose text is being read.
* `ParserState`, `Parse` — the state and the operations on it; they fail with a `SyntaxFault`.
-/

namespace ScriptHost.TableScript

open Text (Bytes)

/-- What is wrong with a text. -/
structure SyntaxFault where
  message : Bytes
  /-- The text nests too deep; anything else is an error of syntax. -/
  isOverflow : Bool := false
deriving Inhabited

/-- A token. -/
inductive Token where
  | eof
  | name (s : Bytes)
  | int (i : Int64)
  | float (x : Float)
  | string (s : Bytes)
  /-- A reserved word, an operator or a bracket. -/
  | fixed (text : String)
  /-- A byte that begins no token. -/
  | stray (b : UInt8)
deriving Inhabited

/-- What an expression is. -/
inductive Exp where
  /-- No expression. -/
  | none
  | const (v : Val)
  /-- A local variable that stands for a constant. -/
  | constVar (name : Bytes) (v : Val)
  | localVar (r : Nat) (name : Bytes) (readonly : Bool)
  | upvalue (i : Nat) (name : Bytes) (readonly : Bool)
  /-- An entry of a table that has not been read yet. -/
  | indexed (table : Place) (key : Operand) (tableOrigin origin : Origin)
  /-- A value in a register of its own. -/
  | temp (r : Nat) (origin : Origin)
  /-- A call at a place of the code, whose results begin at a register. -/
  | call (pc base : Nat)
  /-- The surplus arguments, taken at a place of the code. -/
  | varargs (pc : Nat)
deriving Inhabited

/-- What a declaration says of a local variable. -/
inductive LocalKind where
  | regular | constant | toClose
deriving DecidableEq, Inhabited

/-- A local variable in its scope. -/
structure LocalVar where
  name : Bytes
  kind : LocalKind := .regular
  /-- The register of the variable, or the constant that it stands for. -/
  place : Operand
deriving Inhabited

/-- A block whose text is being read. -/
structure BlockState where
  isLoop : Bool
  /-- The number of variables around the block. -/
  outside : Nat
  /-- The numbers of labels and of pending jumps around the block. -/
  firstLabel : Nat
  firstJump : Nat
  /-- The block itself has values to close. -/
  closes : Bool := false
  /-- The block or one around it has values to close. -/
  insideClosing : Bool := false
deriving Inhabited

/-- A label in its scope. -/
structure LabelState where
  name : Bytes
  line : Nat
  pc : Nat
  /-- The number of variables at the label. -/
  active : Nat
deriving Inhabited

/-- A jump whose label has not been read yet.  A `break` is a jump to the end of a loop. -/
structure JumpState where
  /-- The name of the label; `none` for `break`. -/
  label : Option Bytes
  line : Nat
  /-- The place of the jump; the instruction before is reserved for closing values. -/
  pc : Nat
  active : Nat
deriving Inhabited

/-- A function whose text is being read. -/
structure FunctionState where
  code : Code := {}
  locals : Array LocalVar := #[]
  /-- Which variables the function has captured may not be assigned to. -/
  readonlyUpvalues : Array Bool := #[]
  blocks : List BlockState := []
  labels : Array LabelState := #[]
  jumps : Array JumpState := #[]
  /-- The first register that is not in use. -/
  free : Nat := 0
  /-- A jump may lead to here; what was written before is not to be changed. -/
  lastTarget : Nat := 0
deriving Inhabited

/-- The state of the parser. -/
structure ParserState where
  text : Bytes
  pos : Nat := 0
  line : Nat := 1
  /-- The line of the last token that was passed. -/
  lastLine : Nat := 1
  token : Token := .eof
  /-- The text of the present token. -/
  tokenText : Bytes := Bytes.empty
  /-- The token after the present one, if it was looked at. -/
  ahead : Option (Token × Bytes) := none
  fn : FunctionState := {}
  outer : List FunctionState := []
  /-- The number of productions that are being read. -/
  depth : Nat := 0
  /-- The number of the first code of this text. -/
  base : Nat := 0
  codes : Array Code := #[]
  /-- The name of the text, as messages show it. -/
  source : Bytes
deriving Inhabited

/-- A step of the parser. -/
abbrev Parse := EStateM SyntaxFault ParserState

namespace Parse

/-! ## Errors -/

/-- A token as messages show it. -/
def Token.shown : Token → Bytes → Bytes
  | .eof, _ => .ofString "<eof>"
  | .fixed text, _ => .ofString ("'" ++ text ++ "'")
  | .stray b, _ =>
    if 32 ≤ b && b < 127 then .ofList [39, b, 39]
    else .ofString ("'<\\" ++ toString b.toNat ++ ">'")
  | _, text => .ofString "'" ++ text.untilZero ++ .ofString "'"

/-- Fails at the present line, with or without a text that the error is near. -/
def failWith {α : Type} (message : Bytes) (near : Option Bytes) : Parse α := do
  let s ← get
  let place := s.source ++ .ofString (":" ++ toString s.line ++ ": ")
  let near := match near with
    | some text => .ofString " near " ++ text
    | none => Bytes.empty
  throw { message := place ++ message ++ near }

/-- Fails near the present token. -/
def fail {α : Type} (message : String) : Parse α := do
  let s ← get
  failWith (.ofString message) (some (Token.shown s.token s.tokenText))

/-- Fails without naming a token. -/
def failMeaning {α : Type} (message : Bytes) : Parse α := failWith message none

/-- Fails because a number exceeds a limit. -/
def failLimit {α : Type} (limit : Nat) (what : String) : Parse α := do
  let line := (← get).fn.code.line
  let place := if line = 0 then "main function" else "function at line " ++ toString line
  fail ("too many " ++ what ++ " (limit is " ++ toString limit ++ ") in " ++ place)

/-! ## Instructions -/

/-- The function whose text is being read. -/
def fn : Parse FunctionState := return (← get).fn

/-- Changes the function whose text is being read. -/
def updateFn (f : FunctionState → FunctionState) : Parse Unit :=
  modify fun s => { s with fn := f s.fn }

/-- The place of the next instruction. -/
def here : Parse Nat := return (← fn).code.instrs.size

/-- Writes an instruction; it belongs to the line of the last token. -/
def emit (i : Instr) : Parse Nat := modifyGet fun s =>
  let code := s.fn.code
  (code.instrs.size, { s with fn := { s.fn with
    code := { code with instrs := code.instrs.push i, lines := code.lines.push s.lastLine } } })

/-- Writes an instruction. -/
def write (i : Instr) : Parse Unit := do
  let _ ← emit i

/-- The last instruction belongs to a line. -/
def fixLine (line : Nat) : Parse Unit := updateFn fun f =>
  { f with code := { f.code with
      lines := f.code.lines.setIfInBounds (f.code.lines.size - 1) line } }

/-- Replaces an instruction. -/
def patch (pc : Nat) (i : Instr) : Parse Unit := updateFn fun f =>
  { f with code := { f.code with instrs := f.code.instrs.setIfInBounds pc i } }

/-- Lets a jump lead to a place. -/
def aim (pc target : Nat) : Parse Unit := updateFn fun f =>
  let change : Instr → Instr
    | .jump _ => .jump target
    | .jumpIf c src _ => .jumpIf c src target
    | .forPrepare base _ => .forPrepare base target
    | .forNext base _ => .forNext base target
    | .loopNext base _ => .loopNext base target
    | i => i
  { f with code := { f.code with instrs := f.code.instrs.modify pc change } }

/-- The present place, to which jumps lead. -/
def target : Parse Nat := do
  let pc ← here
  updateFn fun f => { f with lastTarget := pc }
  return pc

/-- Lets a jump lead to the present place. -/
def aimHere (pc : Nat) : Parse Unit := do aim pc (← target)

/-! ## Registers -/

/-- The greatest number of registers of a function. -/
def registerLimit : Nat := 255

/-- Makes room for some registers above those in use. -/
def ensure (n : Nat) : Parse Unit := do
  let needed := (← fn).free + n
  if needed > (← fn).code.frameSize then
    if needed ≥ registerLimit then fail "function or expression needs too many registers"
    updateFn fun f => { f with code := { f.code with frameSize := needed } }

/-- Takes some registers into use; the first of them. -/
def reserve (n : Nat) : Parse Nat := do
  ensure n
  let r := (← fn).free
  updateFn fun f => { f with free := f.free + n }
  return r

/-- The number of registers that hold variables. -/
def levelOf (locals : Array LocalVar) : Nat :=
  locals.foldl (fun n v => match v.place with
    | .reg r => r + 1
    | .const _ => n) 0

/-- The number of registers that hold the variables in scope. -/
def variableLevel : Parse Nat := return levelOf (← fn).locals

/-- The register of an operand is not in use any more, unless it is a variable's. -/
def freeReg (r : Nat) : Parse Unit := do
  let level ← variableLevel
  if r ≥ level then updateFn fun f => { f with free := min f.free r }

def freeOperand : Operand → Parse Unit
  | .reg r => freeReg r
  | .const _ => return

def freePlace : Place → Parse Unit
  | .reg r => freeReg r
  | .upvalue _ => return

/-- The register of an expression's value is not in use any more. -/
def freeExp : Exp → Parse Unit
  | .temp r _ => freeReg r
  | _ => return

/-! ## Values of expressions -/

/-- Lets a call or the surplus arguments have a number of values; `none` leaves them open. -/
def setResults (e : Exp) (count : Option Nat) : Parse Unit := do
  match e with
  | .call pc _ =>
    updateFn fun f => { f with code := { f.code with
      instrs := f.code.instrs.modify pc fun
        | .call base args _ origin => .call base args count origin
        | i => i } }
  | .varargs pc =>
    let r := (← fn).free
    patch pc (.varargs r count)
    let _ ← reserve 1
  | _ => return

/-- Computes the value of an expression: a constant, a variable or a register of its own. -/
def settle : Exp → Parse Exp
  | .constVar _ v => return .const v
  | .upvalue i name _ => do
    let r ← reserve 1
    write (.getUpvalue r i)
    return .temp r (.upvalue name)
  | .indexed table key tableOrigin origin => do
    freeOperand key
    freePlace table
    let pc ← emit (.getIndex 0 table key tableOrigin)
    let r ← reserve 1
    patch pc (.getIndex r table key tableOrigin)
    return .temp r origin
  | .call _ base => return .temp base .unknown
  | .varargs pc => do
    let r ← reserve 1
    patch pc (.varargs r (some 1))
    return .temp r .unknown
  | e => return e

/-- The operand of a settled expression. -/
def operandOf : Exp → Operand
  | .const v => .const v
  | .localVar r _ _ => .reg r
  | .temp r _ => .reg r
  | _ => .const .nil

/-- Where the value of a settled expression comes from. -/
def originOf : Exp → Origin
  | .const (.str s) => .constant s
  | .localVar _ name _ => .localVar name
  | .upvalue _ name _ => .upvalue name
  | .temp _ origin => origin
  | _ => .unknown

/-- Computes the value of an expression into the next register. -/
def toNext (e : Exp) : Parse Exp := do
  let e ← settle e
  freeExp e
  let r ← reserve 1
  match e with
  | .temp s origin =>
    if s != r then write (.load r (.reg s))
    return .temp r origin
  | .const .nil => do
    write (.loadNil r 1)
    return .temp r .unknown
  | e => do
    write (.load r (operandOf e))
    return .temp r (originOf e)

/-- Computes the value of an expression into some register. -/
def toAny (e : Exp) : Parse Exp := do
  match ← settle e with
  | .const v => toNext (.const v)
  | e => return e

/-- The register of an expression whose value is in one. -/
def regOf : Exp → Nat
  | .localVar r _ _ => r
  | .temp r _ => r
  | _ => 0

/-- Computes the value of an expression that is to be indexed, unless it is a captured variable. -/
def toTable (e : Exp) : Parse Exp := do
  match e with
  | .upvalue .. => return e
  | e => toAny e

/-- The name of the variable that holds the global variables. -/
def environmentName : Bytes := .ofString "_ENV"

/-- The entry of a table under a key; both are computed. -/
def index (table key : Exp) : Parse Exp := do
  let table ← match table, key with
    | .upvalue .., .const (.str _) => pure table
    | .upvalue .., _ => toAny table
    | _, _ => pure table
  let isEnvironment := match originOf table with
    | .localVar name | .upvalue name => name == environmentName
    | _ => false
  let origin := match key with
    | .const (.str name) => if isEnvironment then Origin.global name else .field name
    | .const (.int i) =>
      if 0 ≤ i && i ≤ 255 then Origin.field (.ofString "integer index")
      else .field (.ofString "?")
    | .temp _ (.constant name) => if isEnvironment then .global name else .field name
    | _ => if isEnvironment then .global (.ofString "?") else .field (.ofString "?")
  let place := match table with
    | .upvalue i _ _ => Place.upvalue i
    | e => .reg (regOf e)
  return .indexed place (operandOf key) (originOf table) origin

/-- Assigns a value to what an expression stands for. -/
def store (place value : Exp) : Parse Unit := do
  match place with
  | .localVar r _ _ =>
    let value ← settle value
    freeExp value
    write (.assign r (operandOf value))
  | .upvalue i _ _ =>
    let value ← settle value
    write (.setUpvalue i (operandOf value))
    freeExp value
  | .indexed table key tableOrigin _ =>
    let value ← settle value
    write (.setIndex table key (operandOf value) tableOrigin)
    freeExp value
  | _ => return

/-! ## Variables -/

/-- The greatest number of local variables of a function. -/
def localLimit : Nat := 200

/-- Checks that some more local variables are admitted. -/
def checkLocals (more : Nat) : Parse Unit := do
  if (← fn).locals.size + more > localLimit then failLimit localLimit "local variables"

/-- Lets variables come into scope; their registers are the next ones. -/
def declare (vars : List (Bytes × LocalKind)) : Parse Unit := do
  for (name, kind) in vars do
    let r ← variableLevel
    updateFn fun f => { f with locals := f.locals.push { name, kind, place := .reg r } }

/-- The greatest number of variables that a function captures. -/
def upvalueLimit : Nat := 255

/-- What a name stands for in a function. -/
inductive Found where
  | nowhere
  | localVar (v : LocalVar)
  | upvalue (i : Nat) (readonly : Bool)

/-- Adds a captured variable to a function. -/
def FunctionState.capture (f : FunctionState) (name : Bytes) (c : Capture) (readonly : Bool) :
    FunctionState :=
  { f with
    code := { f.code with
      captures := f.code.captures.push c, upvalueNames := f.code.upvalueNames.push name }
    readonlyUpvalues := f.readonlyUpvalues.push readonly }

/-- Looks for a variable in a function and in those around it; functions in between capture it. -/
def find (name : Bytes) : FunctionState → List FunctionState →
    Found × FunctionState × List FunctionState
  | f, outer =>
    match f.locals.findRev? fun v => v.name == name with
    | some v => (.localVar v, f, outer)
    | none => match f.code.upvalueNames.findIdx? (· == name) with
      | some i => (.upvalue i (f.readonlyUpvalues.getD i false), f, outer)
      | none => match outer with
        | [] => (.nowhere, f, outer)
        | g :: rest =>
          let (found, g, rest) := find name g rest
          let i := f.code.captures.size
          match found with
          | .nowhere => (.nowhere, f, g :: rest)
          | .localVar v => match v.place with
            | .const _ => (found, f, g :: rest)
            | .reg r =>
              let readonly := v.kind != .regular
              (.upvalue i readonly, FunctionState.capture f name (.localVar r) readonly, g :: rest)
          | .upvalue j readonly =>
            (.upvalue i readonly, FunctionState.capture f name (.upvalue j) readonly, g :: rest)
termination_by _ outer => outer.length

/-- The variable of a name, if there is one. -/
def lookUp (name : Bytes) : Parse Exp := do
  let s ← get
  let (found, f, outer) := find name s.fn s.outer
  MonadState.set { s with fn := f, outer }
  if f.code.captures.size > upvalueLimit then failLimit upvalueLimit "upvalues"
  match found with
  | .nowhere => return .none
  | .upvalue i readonly => return .upvalue i name readonly
  | .localVar v => match v.place with
    | .reg r => return .localVar r name (v.kind != .regular)
    | .const c => return .constVar name c

/-! ## Blocks and jumps -/

/-- Enters a block. -/
def enterBlock (isLoop : Bool) : Parse Unit := updateFn fun f =>
  let insideClosing := match f.blocks with
    | b :: _ => b.insideClosing
    | [] => false
  { f with blocks := {
      isLoop, outside := f.locals.size, firstLabel := f.labels.size, firstJump := f.jumps.size
      insideClosing } :: f.blocks }

/-- The innermost block has a value to close. -/
def markClosing : Parse Unit := updateFn fun f => { f with
  blocks := match f.blocks with
    | b :: rest => { b with closes := true, insideClosing := true } :: rest
    | [] => [] }

/-- Writes a jump whose target is not known yet. -/
def jump : Parse Nat := emit (.jump 0)

/-- Writes a jump to a label that has not been read yet. -/
def pendingJump (label : Option Bytes) (line : Nat) : Parse Unit := do
  write .nop
  let pc ← jump
  updateFn fun f => { f with jumps := f.jumps.push { label, line, pc, active := f.locals.size } }

/-- A name in a message. -/
def quoted (name : Bytes) : Bytes := .ofString "'" ++ name.untilZero ++ .ofString "'"

/-- Lets the pending jumps of the innermost block that name a label lead to it. -/
def resolve (label : Option Bytes) (pc active : Nat) : Parse Unit := do
  let f ← fn
  let first := (f.blocks.head?.map (·.firstJump)).getD 0
  for j in f.jumps.extract first f.jumps.size do
    if j.label == label then
      if j.active < active then
        let v := f.locals.getD j.active { name := Bytes.empty, place := .reg 0 }
        failMeaning (.ofString "<goto " ++ (label.getD Bytes.empty).untilZero
          ++ .ofString ("> at line " ++ toString j.line ++ " jumps into the scope of local ")
          ++ quoted v.name)
      aim j.pc pc
  updateFn fun f => { f with
    jumps := f.jumps.extract 0 first
      ++ (f.jumps.extract first f.jumps.size).filter fun j => j.label != label }

/-- Takes pending jumps out of a block: they close what the block has to close. -/
def liftJumps (b : BlockState) (level : Nat) : Parse Unit := do
  let f ← fn
  for j in f.jumps.extract b.firstJump f.jumps.size do
    if b.closes && j.active > b.outside then patch (j.pc - 1) (.close level)
  updateFn fun f => { f with
    jumps := f.jumps.mapIdx fun i j =>
      if i ≥ b.firstJump then { j with active := min j.active b.outside } else j }

/-- The error of a jump without a label. -/
def failJump {α : Type} (j : JumpState) : Parse α :=
  match j.label with
  | none => failMeaning (.ofString ("break outside loop at line " ++ toString j.line))
  | some name => failMeaning (.ofString "no visible label " ++ quoted name
      ++ .ofString (" for goto at line " ++ toString j.line))

/-- Leaves a block. -/
def leaveBlock : Parse Unit := do
  match (← fn).blocks with
  | [] => return
  | b :: rest =>
    updateFn fun f => { f with locals := f.locals.extract 0 b.outside }
    let level ← variableLevel
    if b.isLoop then resolve none (← target) b.outside
    if b.closes && !rest.isEmpty then write (.close level)
    updateFn fun f => { f with
      free := level, labels := f.labels.extract 0 b.firstLabel, blocks := rest }
    if rest.isEmpty then
      match (← fn).jumps[b.firstJump]? with
      | some j => failJump j
      | none => return
    else liftJumps b level

end Parse

end ScriptHost.TableScript
