import ScriptHost.ProtoScript.Code

/-!
# The state of the parser

The parser reads a text once, from left to right, and writes the code of the innermost function as it
goes.  This module has its state and the operations that write code: instructions, labels, scopes and
the targets of `break` and `continue`.

* `Token` — the tokens.
* `Cursor` — a place in the text.
* `FunctionState` — a function whose text is being read.
* `ParserState`, `Parse` — the state and the operations on it; they fail with a `SyntaxFault`.
-/

namespace ScriptHost.ProtoScript

open Text (Units)

/-- What is wrong with a text, and where: the line counts from 1, the column from 0. -/
structure SyntaxFault where
  message : String
  line : Nat
  column : Nat
deriving Inhabited

/-- A token. -/
inductive Token where
  | eof
  | number (x : Float)
  | bigint (i : Int)
  | string (s : Units)
  /-- A part of a template, up to a backquote or an opening `$` brace. -/
  | template (raw : Units) (last : Bool)
  /-- An identifier; a reserved word written with an escape is marked. -/
  | ident (name : String) (escaped reserved : Bool)
  | keyword (name : String)
  | privateName (name : String)
  | regexp (body flags : Units)
  | punct (text : String)
deriving Inhabited

/-- A place in a text: its number, and the text from there on. -/
structure Cursor where
  pos : Nat := 0
  rest : List Char := []
deriving Inhabited

namespace Cursor

/-- The character at a place, or NUL at the end of the text. -/
def char (i : Cursor) : Char := i.rest.headD '\x00'

/-- The character some places further on, or NUL beyond the end. -/
def charAfter (i : Cursor) (n : Nat) : Char := i.rest.getD n '\x00'

/-- Whether a place is the end of the text. -/
def atEnd (i : Cursor) : Bool := i.rest.isEmpty

/-- The place some characters further on. -/
def skip (i : Cursor) (n : Nat) : Cursor := ⟨i.pos + n, i.rest.drop n⟩

/-- The text from a place to the place of a number. -/
def upTo (i : Cursor) (stop : Nat) : List Char := i.rest.take (stop - i.pos)

end Cursor

/-- How a variable of a block was declared. -/
inductive VarKind where
  | lexical | function | caught | hidden
deriving DecidableEq, Inhabited

/-- A block whose text is being read. -/
structure ScopeState where
  id : Nat
  vars : List (String × Bool × VarKind) := []
  functions : List (String × Nat) := []
  /-- The instruction that enters the scope. -/
  enter : Nat := 0
  /-- The instructions that leave it. -/
  leaves : List Nat := []
  /-- The scope has to be there at run time whatever it declares. -/
  forced : Bool := false
deriving Inhabited

/-- What `break` and `continue` see of a statement around them. -/
structure BreakTarget where
  label : Option String := none
  breakTo : Option Nat := none
  continueTo : Option Nat := none
  /-- Operands to drop on the way out. -/
  drops : Nat := 0
  hasIterator : Bool := false
  hasHandler : Bool := false
  finallyAt : Option Nat := none
  /-- A labelled statement that is neither a loop nor a switch. -/
  regular : Bool := false
  /-- The number of open scopes around the statement. -/
  depth : Nat := 0
  /-- The number of open scopes where the handler was set. -/
  handlerDepth : Nat := 0
deriving Inhabited

/-- A function whose text is being read. -/
structure FunctionState where
  code : Code := {}
  /-- The column that the next instructions belong to. -/
  mark : Nat := 1
  /-- The last instruction, if it may still be turned into a reference. -/
  lastOp : Option Nat := none
  scopes : List ScopeState := []
  scopeCount : Nat := 0
  breaks : List BreakTarget := []
  isEval : Bool := false
  evalGlobal : Bool := false
  inBody : Bool := false
  superCallAllowed : Bool := false
  superAllowed : Bool := false
  newTargetAllowed : Bool := false
  argumentsAllowed : Bool := true
  /-- For each `var` name the scopes around its first declaration. -/
  varScopes : List (String × List Nat) := []
  useStrict : Bool := false
deriving Inhabited

/-- The state of the parser. -/
structure ParserState where
  /-- The number of characters of the text. -/
  size : Nat
  /-- The place after the present token. -/
  here : Cursor
  line : Nat := 1
  lineStart : Nat := 0
  /-- A line ended between the last token and the present one. -/
  newline : Bool := false
  token : Token := .eof
  /-- The place of the present token. -/
  start : Cursor := {}
  tokenLine : Nat := 1
  tokenLineStart : Nat := 0
  /-- The line of the last token that was passed. -/
  lastLine : Nat := 1
  /-- The end of the last token that was passed. -/
  lastEnd : Nat := 0
  fn : FunctionState := {}
  outer : List FunctionState := []
  /-- The number of the first code of this text. -/
  base : Nat := 0
  codes : Array Code := #[]
  file : String := "eval_script"
deriving Inhabited

/-- A step of the parser. -/
abbrev Parse := EStateM SyntaxFault ParserState

namespace Parse

/-- Fails at the present token. -/
def fail {α : Type} (message : String) : Parse α := do
  let s ← get
  throw ⟨message, s.line, s.start.pos - s.tokenLineStart⟩

/-- The function whose text is being read. -/
def fn : Parse FunctionState := return (← get).fn

/-- Changes the function whose text is being read. -/
def updateFn (f : FunctionState → FunctionState) : Parse Unit :=
  modify fun s => { s with fn := f s.fn }

def isStrict : Parse Bool := return (← get).fn.code.strict

/-! ## Instructions -/

/-- The column of the present token, from 1. -/
def tokenColumn : Parse Nat := do
  let s ← get
  return s.start.pos - s.tokenLineStart + 1

/-- The instructions that follow belong to a column. -/
def markColumn (column : Nat) : Parse Unit := updateFn fun f => { f with mark := column }

/-- The instructions that follow belong to the column of the present token. -/
def markToken : Parse Unit := do markColumn (← tokenColumn)

/-- Writes an instruction. -/
def emit (i : Instr) : Parse Unit := modify fun s =>
  let at0 := Pos.pack ⟨s.lastLine, s.fn.mark⟩
  { s with fn := { s.fn with
      lastOp := some s.fn.code.instrs.size
      code := { s.fn.code with
        instrs := s.fn.code.instrs.push i
        positions := s.fn.code.positions.push at0 } } }

/-- What was written last is no reference any more. -/
def settle : Parse Unit := updateFn fun f => { f with lastOp := none }

/-- The last instruction, if it may still be turned into something else. -/
def lastInstr : Parse (Option Instr) := do
  let f ← fn
  return f.lastOp.bind fun i => f.code.instrs[i]?

/-- Takes the last instruction back. -/
def unwrite : Parse Unit := updateFn fun f => { f with
  lastOp := none
  code := { f.code with
    instrs := f.code.instrs.pop
    positions := f.code.positions.pop } }

/-- Writes an instruction in the place of another. -/
def patch (at0 : Nat) (i : Instr) : Parse Unit := updateFn fun f =>
  { f with code := { f.code with instrs := f.code.instrs.setIfInBounds at0 i } }

/-- A new label. -/
def newLabel : Parse Nat := do
  let f ← fn
  updateFn fun f => { f with code := { f.code with labels := f.code.labels.push 0 } }
  return f.code.labels.size

/-- Puts a label at the present place. -/
def placeLabel (l : Nat) : Parse Unit := updateFn fun f => { f with
  lastOp := none
  code := { f.code with labels := f.code.labels.setIfInBounds l f.code.instrs.size } }

/-- Whether the present place of the code can be reached from the instruction before. -/
def isLive : Parse Bool := do
  match ← lastInstr with
  | some (.jump _) | some .returnValue | some .throwValue | some (.throwKind _ _)
  | some .endSub => return false
  | _ => return true

/-! ## Scopes -/

/-- Opens a scope, which the last instruction enters. -/
def openScope (forced : Bool) (f : FunctionState) : FunctionState :=
  { f with
    lastOp := none
    scopeCount := f.scopeCount + 1
    scopes := { id := f.scopeCount + 1, enter := f.code.instrs.size - 1, forced } :: f.scopes }

/-- Drops the innermost scope. -/
def dropScope (f : FunctionState) : FunctionState :=
  { f with scopes := f.scopes.drop 1, lastOp := none }

/-- Enters a block. -/
def pushScope : Parse Unit := do
  emit (.enterScope [] [])
  updateFn (openScope false)

/-- Writes the instructions that leave scopes, when `open0` of them are open, until `depth` are. -/
def closeScopes (open0 depth : Nat) : Parse Unit := do
  let total := (← fn).scopes.length
  for i in [total - open0:total - depth] do
    emit .leaveScope
    updateFn fun f => { f with scopes := f.scopes.modify i fun sc =>
      { sc with leaves := (f.code.instrs.size - 1) :: sc.leaves } }

/-- Leaves a block: what it declares is known now, and a block without declarations needs no scope
at run time. -/
def popScope : Parse Unit := do
  let f ← fn
  match f.scopes with
  | [] => return
  | _ :: rest =>
    closeScopes f.scopes.length rest.length
    let f ← fn
    match f.scopes with
    | [] => return
    | sc :: rest =>
      if sc.vars.isEmpty && sc.functions.isEmpty && !sc.forced then
        patch sc.enter .nop
        for l in sc.leaves do patch l .nop
      else
        let vars := sc.vars.filterMap fun (name, constant, kind) =>
          if kind == .hidden then none else some ⟨name, constant⟩
        patch sc.enter (.enterScope vars.reverse sc.functions.reverse)
      updateFn fun f => { f with scopes := rest, lastOp := none }

/-- Changes the innermost scope. -/
def updateScope (g : ScopeState → ScopeState) : Parse Unit := updateFn fun f =>
  { f with scopes := match f.scopes with
    | [] => []
    | sc :: rest => g sc :: rest }

/-- The number of open scopes. -/
def scopeDepth : Parse Nat := return (← fn).scopes.length

/-- Whether the present scope is the function's own. -/
def atBody : Parse Bool := return (← fn).scopes.length ≤ 1

/-! ## Targets of `break` and `continue` -/

/-- Enters a statement that `break`, `continue` or an error can leave. -/
def pushBreak (t : BreakTarget) : Parse Unit := do
  let depth ← scopeDepth
  updateFn fun f => { f with breaks := { t with depth, handlerDepth := depth } :: f.breaks }

/-- Enters a statement whose handler was set when more scopes were open than around it. -/
def pushBreakAt (t : BreakTarget) (depth handlerDepth : Nat) : Parse Unit :=
  updateFn fun f => { f with breaks := { t with depth, handlerDepth } :: f.breaks }

/-- Leaves such a statement. -/
def popBreak : Parse Unit := updateFn fun f => { f with breaks := f.breaks.drop 1 }

end Parse

end ScriptHost.ProtoScript
