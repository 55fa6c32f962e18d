import ScriptHost.TableScript.Raise

/-!
# Tables, variables and registers

* `Script.lookIn`, `Script.storeIn` — reading and writing of entries; where a metatable has a function
  for that, the answer tells which function to ask.
* `Script.getIndex`, `Script.setIndex` — the same, with the function called at once.
* `Script.register`, `Script.initRegister`, `Script.assignRegister` — registers; a variable that
  functions share lives in a cell, to which its register refers.
-/

namespace ScriptHost.TableScript

open Text (Bytes)

/-- What reading an entry comes to. -/
inductive Access where
  | value (v : Val)
  /-- A function is to be asked about a value. -/
  | ask (f subject : Val)

/-- What writing an entry comes to. -/
inductive Storing where
  | done
  /-- A function is to be told about a value. -/
  | tell (f subject : Val)

namespace Script

/-! ## Making and changing -/

/-- A new table. -/
def newTable (t : Table) : Script Val := modifyGet fun m =>
  (.table m.tables.size, { m with tables := m.tables.push t })

/-- A new function. -/
def newFunction (c : Callee) : Script Val := modifyGet fun m =>
  (.function m.functions.size, { m with functions := m.functions.push c })

/-- A new cell. -/
def newCell (v : Val) : Script Nat := modifyGet fun m =>
  (m.cells.size, { m with cells := m.cells.push v })

def tableAt (id : Nat) : Script Table := return (← MonadState.get).tableAt id

def updateTable (id : Nat) (f : Table → Table) : Script Unit := modify fun m =>
  { m with tables := m.tables.modify id f }

/-- Stores an entry without asking the metatable. -/
def rawStore (id : Nat) (key value : Val) : Script Unit := do
  match key with
  | .nil => fail "table index is nil"
  | .unsignedNan => fail "table index is NaN"
  | .num x => if x.isNaN then fail "table index is NaN"
  | _ => pure ()
  updateTable id fun t => t.store key value

/-- A border of a table. -/
def borderOf (id : Nat) : Script Nat := modifyGet fun m =>
  let (n, t) := (m.tableAt id).border
  (n, { m with tables := m.tables.modify id fun _ => { t with } })

/-! ## Entries -/

/-- The greatest number of metatables that are asked in turn. -/
def chainLimit : Nat := 2000

/-- Looks an entry up. -/
def lookFrom (v key : Val) (origin : Origin) : Nat → Script Access
  | 0 => fail "'__index' chain too long; possibly a loop"
  | fuel + 1 => do
    let m ← MonadState.get
    let found := match v with
      | .table id => (m.tableAt id).get key
      | _ => .nil
    if !found.isNil then return .value found
    match m.handler v .index with
    | .nil => match v with
      | .table _ => return .value .nil
      | _ => failOperand v origin "index"
    | .function f => return .ask (.function f) v
    | next => lookFrom next key .unknown fuel

/-- Looks an entry up; `origin` tells where the value came from that is indexed. -/
def lookIn (v key : Val) (origin : Origin := .unknown) : Script Access :=
  lookFrom v key origin chainLimit

/-- Stores an entry. -/
def storeFrom (v key value : Val) (origin : Origin) : Nat → Script Storing
  | 0 => fail "'__newindex' chain too long; possibly a loop"
  | fuel + 1 => do
    let m ← MonadState.get
    let handler := m.handler v .newIndex
    match v, handler with
    | .table id, .nil => do
      rawStore id key value
      return .done
    | .table id, _ =>
      if !((m.tableAt id).get key).isNil then
        rawStore id key value
        return .done
    | _, .nil => failOperand v origin "index"
    | _, _ => pure ()
    match handler with
    | .function f => return .tell (.function f) v
    | next => storeFrom next key value .unknown fuel

/-- Stores an entry; `origin` tells where the value came from that is indexed. -/
def storeIn (v key value : Val) (origin : Origin := .unknown) : Script Storing :=
  storeFrom v key value origin chainLimit

/-- Calls a function and answers all results. -/
def call (f : Val) (args : Array Val) : Script (Array Val) := fun calls => calls.call f args

/-- Calls a function and answers the first result. -/
def callOne (f : Val) (args : Array Val) : Script Val := return (← call f args).getD 0 .nil

/-- The entry of a value. -/
def getIndex (v key : Val) : Script Val := do
  match ← lookIn v key with
  | .value w => return w
  | .ask f subject => callOne f #[subject, key]

/-- Assigns to the entry of a value. -/
def setIndex (v key value : Val) : Script Unit := do
  match ← storeIn v key value with
  | .done => return
  | .tell f subject => let _ ← call f #[subject, key, value]

/-! ## Registers -/

def updateStack (f : Stack → Stack) : Script Unit := modify fun m => { m with stack := f m.stack }

def updateFrame (f : Frame → Frame) : Script Unit := modify fun m =>
  { m with stack := { m.stack with frame := f m.stack.frame } }

def frame : Script Frame := return (← MonadState.get).stack.frame

/-- The value of a register. -/
def register (r : Nat) : Script Val := do
  let m ← MonadState.get
  match m.stack.frame.regs.getD r .nil with
  | .cell c => return m.cells.getD c .nil
  | v => return v

/-- Gives a register a new value; what it referred to before does not change. -/
def initRegister (r : Nat) (v : Val) : Script Unit := updateFrame fun f =>
  { f with regs := f.regs.setIfInBounds r v }

/-- Assigns to the variable of a register. -/
def assignRegister (r : Nat) (v : Val) : Script Unit := do
  match (← frame).regs.getD r .nil with
  | .cell c => modify fun m => { m with cells := m.cells.setIfInBounds c v }
  | _ => initRegister r v

def operand : Operand → Script Val
  | .reg r => register r
  | .const v => return v

/-- The cell of a captured variable. -/
def upvalueCell (i : Nat) : Script Nat := return (← frame).upvalues.getD i 0

/-- The value of a captured variable. -/
def upvalue (i : Nat) : Script Val := do
  let c ← upvalueCell i
  return (← MonadState.get).cells.getD c .nil

/-- The cell of a register; a variable that has none yet gets one. -/
def cellOf (r : Nat) : Script Nat := do
  match (← frame).regs.getD r .nil with
  | .cell c => return c
  | v => do
    let c ← newCell v
    initRegister r (.cell c)
    return c

/-- The value that an instruction is to index. -/
def place : Place → Script Val
  | .reg r => register r
  | .upvalue i => upvalue i

/-- The values of some registers. -/
def registers (start count : Nat) : Script (Array Val) := do
  let m ← MonadState.get
  let regs := m.stack.frame.regs.extract start (start + count)
  return regs.map fun
    | .cell c => m.cells.getD c .nil
    | v => v

/-- The values that an instruction takes. -/
def values (start : Nat) (vs : Values) : Script (Array Val) := do
  let regs ← registers start vs.count
  if vs.andOpen then return regs ++ (← frame).openValues else return regs

/-- Gives several registers new values; missing ones are `nil`. -/
def initRegisters (start count : Nat) (vs : Array Val) : Script Unit := updateFrame fun f =>
  { f with regs := (List.range count).foldl (fun regs i =>
      regs.setIfInBounds (start + i) (vs.getD i .nil)) f.regs }

end Script

end ScriptHost.TableScript
