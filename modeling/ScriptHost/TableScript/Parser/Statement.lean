import ScriptHost.TableScript.Parser.Expression

/-!
# Statements

* `Parse.statement` — any statement.
* `Parse.assignment` — assignments and calls as statements.
* `Parse.localVariables`, `Parse.numericLoop`, `Parse.valueLoop` — declarations and loops.
-/

namespace ScriptHost.TableScript

open Text (Bytes)

namespace Parse

open Lexer (next repeatStep)

/-- A block of its own. -/
def block (g : Grammar) : Parse Unit := do
  enterBlock false
  statements g
  leaveBlock

/-! ## Values for variables -/

/-- Lets a number of expressions fit a number of variables: the values are in the last registers. -/
def adjust (wanted given : Nat) (last : Exp) : Parse Unit := do
  if isOpen last then
    setResults last (some (wanted + 1 - given))
  else
    match last with
    | .none => pure ()
    | e => let _ ← toNext e
    if wanted > given then
      ensure (wanted - given)
      write (.loadNil (← fn).free (wanted - given))
  if wanted > given then
    let _ ← reserve (wanted - given)
  else
    updateFn fun f => { f with free := f.free - (given - wanted) }

/-- Checks that a variable may be assigned to. -/
def checkAssignable (e : Exp) : Parse Unit := do
  let refuse (name : Bytes) : Parse Unit :=
    failMeaning (.ofString "attempt to assign to const variable " ++ quoted name)
  match e with
  | .constVar name _ => refuse name
  | .localVar _ name true => refuse name
  | .upvalue _ name true => refuse name
  | _ => return

/-- Whether an expression stands for something that can be assigned to. -/
def isVariable : Exp → Bool
  | .constVar .. | .localVar .. | .upvalue .. | .indexed .. => true
  | _ => false

/-- Entries that are assigned to keep the table and the key that they were read with: a variable that
is assigned to in the same statement is copied for them. -/
def keepFrom (targets : List Exp) (e : Exp) : Parse (List Exp) := do
  let copy ← pure (← fn).free
  let conflicts (t : Exp) : Bool := match t, e with
    | .indexed (.reg r) key _ _, .localVar s _ _ =>
      r == s || (match key with
        | .reg k => k == s
        | .const _ => false)
    | .indexed (.upvalue i) _ _ _, .upvalue j _ _ => i == j
    | _, _ => false
  if !targets.any conflicts then return targets
  match e with
  | .localVar s _ _ => write (.load copy (.reg s))
  | .upvalue j _ _ => write (.getUpvalue copy j)
  | _ => pure ()
  let _ ← reserve 1
  return targets.map fun t =>
    if !conflicts t then t
    else match t, e with
      | .indexed (.reg r) key o origin, .localVar s _ _ =>
        let key := match key with
          | .reg k => if k == s then Operand.reg copy else key
          | .const _ => key
        .indexed (.reg (if r == s then copy else r)) key o origin
      | .indexed (.upvalue _) key o origin, _ => .indexed (.reg copy) key o origin
      | t, _ => t

/-- The rest of an assignment.  The variables read so far come last first. -/
def assignRest (g : Grammar) : Nat → List Exp → Parse Unit
  | 0, _ => fail "syntax error"
  | fuel + 1, targets => do
    match targets with
    | [] => return
    | e :: before =>
      if !isVariable e then fail "syntax error"
      checkAssignable e
      let restore (ts : List Exp) : Parse Unit := do
        for t in ts do
          store t (.temp ((← fn).free - 1) .unknown)
      if ← accept "," then
        let another ← suffixed g
        let targets ← match another with
          | .indexed .. => pure targets
          | _ => keepFrom targets another
        deeper (assignRest g fuel (another :: targets))
      else
        expect "="
        let (given, last) ← expressions g
        if given = targets.length then
          let last ← match last with
            | .call .. | .varargs _ => settle last
            | last => pure last
          store e last
          restore before
        else
          adjust targets.length given last
          restore targets

/-- An assignment, or a call as a statement. -/
def assignment (g : Grammar) : Parse Unit := do
  let e ← suffixed g
  if (← sees "=") || (← sees ",") then
    assignRest g ((← get).text.size + 2) [e]
  else match e with
    | .call .. => setResults e (some 0)
    | _ => fail "syntax error"

/-! ## Declarations -/

/-- What a declaration says of a variable after its name. -/
def localKind : Parse LocalKind := do
  if !(← accept "<") then return .regular
  let word ← name
  expect ">"
  if word == .ofString "const" then return .constant
  else if word == .ofString "close" then return .toClose
  else failMeaning (.ofString "unknown attribute " ++ quoted word)

/-- `local` variables. -/
def localVariables (g : Grammar) : Parse Unit := do
  let rec names : Nat → List (Bytes × LocalKind) → Parse (List (Bytes × LocalKind))
    | 0, vars => return vars
    | fuel + 1, vars => do
      let s ← name
      checkLocals (vars.length + 1)
      let kind ← localKind
      if kind == .toClose && vars.any (·.2 == .toClose) then
        failMeaning (.ofString "multiple to-be-closed variables in local list")
      let vars := vars ++ [(s, kind)]
      if ← accept "," then names fuel vars else return vars
  let vars ← names (localLimit + 2) []
  let (given, last) ← if ← accept "=" then expressions g else pure (0, Exp.none)
  let constant : Option Val := match vars.getLast?, last with
    | some (_, .constant), .const v | some (_, .constant), .constVar _ v =>
      if given = vars.length then some v else none
    | _, _ => none
  match constant, vars.getLast? with
  | some v, some (s, kind) =>
    declare vars.dropLast
    updateFn fun f => { f with locals := f.locals.push { name := s, kind, place := .const v } }
  | _, _ =>
    adjust vars.length given last
    let level ← variableLevel
    declare vars
    match vars.findIdx? (·.2 == .toClose) with
    | some i =>
      markClosing
      write (.markClose (level + i) ((vars.map (·.1)).getD i Bytes.empty))
    | none => return

/-- A `local` function: it sees itself. -/
def localFunction (g : Grammar) : Parse Unit := do
  let s ← name
  checkLocals 1
  let r ← reserve 1
  write (.loadNil r 1)
  declare [(s, .regular)]
  let f ← functionBody g false (← line)
  write (.assign r (operandOf f))

/-- A function that is assigned to a variable or field. -/
def functionStatement (g : Grammar) (start : Nat) : Parse Unit := do
  next
  let rec path : Nat → Exp → Parse Exp
    | 0, e => return e
    | fuel + 1, e => do if ← sees "." then path fuel (← fieldOf e) else return e
  let e ← path ((← get).text.size + 2) (← variableNamed (← name))
  let isMethod ← sees ":"
  let e ← if isMethod then fieldOf e else pure e
  let f ← functionBody g isMethod start
  checkAssignable e
  store e f
  fixLine start

/-! ## Control -/

/-- A condition; the place of the jump that is taken if it does not hold. -/
def condition (g : Grammar) : Parse Nat := do
  let e ← settle (← g.expr 0)
  freeExp e
  emit (.jumpIf false (operandOf e) 0)

/-- `if` with all its branches. -/
def ifStatement (g : Grammar) (start : Nat) : Parse Unit := do
  -- the jumps to the end, and the jump of the last condition
  let rec branches : Nat → List Nat → Parse (List Nat × Nat)
    | 0, ends => return (ends, 0)
    | fuel + 1, ends => do
      next
      let otherwise ← condition g
      expect "then"
      block g
      let more := (← sees "else") || (← sees "elseif")
      let ends ← if more then pure ((← jump) :: ends) else pure ends
      if ← sees "elseif" then
        aimHere otherwise
        branches fuel ends
      else return (ends, otherwise)
  let (ends, otherwise) ← branches ((← get).text.size + 2) []
  aimHere otherwise
  if ← accept "else" then block g
  expectMatch "end" "if" start
  for pc in ends do aimHere pc

def whileStatement (g : Grammar) (start : Nat) : Parse Unit := do
  next
  let top ← target
  let exit ← condition g
  enterBlock true
  expect "do"
  block g
  aim (← jump) top
  expectMatch "end" "while" start
  -- the condition leads to the end of the loop, like `break`
  aimHere exit
  leaveBlock

def repeatStatement (g : Grammar) (start : Nat) : Parse Unit := do
  next
  let top ← target
  enterBlock true
  enterBlock false
  statements g
  expectMatch "until" "repeat" start
  let e ← settle (← g.expr 0)
  freeExp e
  leaveBlock
  let pc ← emit (.jumpIf false (operandOf e) 0)
  aim pc top
  leaveBlock

/-- The body of a loop over registers from `base` on. -/
def loopBody (g : Grammar) (base start : Nat) (vars : List Bytes) (numeric : Bool) : Parse Unit := do
  expect "do"
  let prepare ← if numeric then emit (.forPrepare base 0) else jump
  enterBlock false
  declare (vars.map fun v => (v, .regular))
  let _ ← reserve vars.length
  let body ← target
  block g
  leaveBlock
  if numeric then
    let pc ← emit (.forNext base body)
    fixLine start
    aim prepare (pc + 1)
  else
    aimHere prepare
    write (.loopCall base vars.length)
    fixLine start
    write (.loopNext base body)
    fixLine start
  let _ ← target

/-- The name of variables that a loop keeps to itself. -/
def hiddenName : Bytes := .ofString "(for state)"

def numericLoop (g : Grammar) (var : Bytes) (start : Nat) : Parse Unit := do
  let base := (← fn).free
  checkLocals 4
  expect "="
  let _ ← toNext (← g.expr 0)
  expect ","
  let _ ← toNext (← g.expr 0)
  let step ← if ← accept "," then g.expr 0 else pure (.const (.int 1))
  let _ ← toNext step
  declare (List.replicate 3 (hiddenName, .regular))
  loopBody g base start [var] true

def valueLoop (g : Grammar) (first : Bytes) : Parse Unit := do
  let base := (← fn).free
  checkLocals 5
  let rec names : Nat → List Bytes → Parse (List Bytes)
    | 0, vars => return vars
    | fuel + 1, vars => do
      if ← accept "," then
        let s ← name
        checkLocals (vars.length + 5)
        names fuel (vars ++ [s])
      else return vars
  let vars ← names (localLimit + 2) [first]
  expect "in"
  let start ← line
  let (given, last) ← expressions g
  adjust 4 given last
  declare (List.replicate 4 (hiddenName, .regular))
  markClosing
  write (.markClose (base + 3) hiddenName)
  ensure 3
  loopBody g base start vars false

def forStatement (g : Grammar) (start : Nat) : Parse Unit := do
  enterBlock true
  next
  let first ← name
  if ← sees "=" then numericLoop g first start
  else if (← sees ",") || (← sees "in") then valueLoop g first
  else fail "'=' or 'in' expected"
  expectMatch "end" "for" start
  leaveBlock

def returnStatement (g : Grammar) : Parse Unit := do
  next
  if (← blockEnds true) || (← sees ";") then
    write (.ret (← variableLevel) { count := 0 })
  else
    let (count, last) ← expressions g
    let level ← variableLevel
    let insideClosing := ((← fn).blocks.head?.map (·.insideClosing)).getD false
    if isOpen last then
      setResults last none
      match last with
      | .call pc base =>
        if count = 1 && !insideClosing then
          updateFn fun f => { f with code := { f.code with
            instrs := f.code.instrs.modify pc fun
              | .call base args _ origin => .tailCall base args origin
              | i => i } }
        write (.ret level { count := base - level, andOpen := true })
      | _ => write (.ret level { count := (← fn).free - 1 - level, andOpen := true })
    else if count = 1 then
      let e ← toAny last
      write (.ret (regOf e) { count := 1 })
    else
      let _ ← toNext last
      write (.ret level { count })
  let _ ← accept ";"

/-! ## Labels -/

/-- The label of a name that is in scope. -/
def findLabel? (s : Bytes) : Parse (Option LabelState) :=
  return (← fn).labels.find? fun l => l.name == s

/-- A label, after its name and the two colons before it. -/
def label (g : Grammar) (s : Bytes) (start : Nat) : Parse Unit := do
  expect "::"
  repeatStep do
    if (← sees ";") || (← sees "::") then
      g.statement
      return true
    return false
  match ← findLabel? s with
  | some l => failMeaning (.ofString "label " ++ quoted s
      ++ .ofString (" already defined on line " ++ toString l.line))
  | none =>
    let f ← fn
    -- at the end of a block its variables are out of scope already
    let active := if ← blockEnds false then (f.blocks.head?.map (·.outside)).getD 0
      else f.locals.size
    let pc ← target
    updateFn fun f => { f with labels := f.labels.push { name := s, line := start, pc, active } }
    resolve (some s) pc active

def gotoStatement : Parse Unit := do
  let start ← line
  next
  let s ← name
  match ← findLabel? s with
  | some l =>
    let level := levelOf ((← fn).locals.extract 0 l.active)
    if (← variableLevel) > level then write (.close level)
    aim (← jump) l.pc
  | none => pendingJump (some s) start

/-- Any statement. -/
def statement (g : Grammar) : Parse Unit := do
  let start ← line
  deeper do
    match ← token with
    | .fixed ";" => next
    | .fixed "if" => ifStatement g start
    | .fixed "while" => whileStatement g start
    | .fixed "do" =>
      next
      block g
      expectMatch "end" "do" start
    | .fixed "for" => forStatement g start
    | .fixed "repeat" => repeatStatement g start
    | .fixed "function" => functionStatement g start
    | .fixed "local" =>
      next
      if ← accept "function" then localFunction g else localVariables g
    | .fixed "::" =>
      next
      label g (← name) start
    | .fixed "return" => returnStatement g
    | .fixed "break" =>
      next
      pendingJump none start
    | .fixed "goto" => gotoStatement
    | _ => assignment g
  let level ← variableLevel
  updateFn fun f => { f with free := level }

/-- The productions nested up to a depth. -/
def grammar : Nat → Grammar
  | 0 => {
    expr := fun _ => fail "chunk has too many syntax levels"
    statement := fail "chunk has too many syntax levels" }
  | depth + 1 => {
    expr := fun limit => binaryExpression (grammar depth) limit
    statement := statement (grammar depth) }

end Parse

/-! ## Whole texts -/

/-- Why a compiled text is refused. -/
def binaryFault? (text : Bytes) (source : Bytes) : Option SyntaxFault :=
  if text.byteAt 0 != 27 || text.size = 0 then none
  else
    let expected : Bytes := .ofList
      [27, 76, 117, 97, 0x54, 0, 0x19, 0x93, 13, 10, 26, 10, 4, 8, 8]
    -- the parts of the heading with what is wrong with a text that differs there
    let parts := [(4, "not a binary chunk"), (5, "version mismatch"), (6, "format mismatch"),
      (12, "corrupted chunk"), (13, "Instruction size mismatch"), (14, "lua_Integer size mismatch"),
      (15, "lua_Number size mismatch")]
    let why := parts.foldr (fun (stop, message) later =>
      if text.size < stop then "truncated chunk"
      else if (text.slice 0 stop) != expected.slice 0 stop then message
      else later) "truncated chunk"
    some { message := source ++ .ofString (": bad binary format (" ++ why ++ ")") }

/-- Translates a text: its codes in order of their numbers, the text's own last.  `base` is the number
of the first, and `depth` the number of calls around the translation. -/
def compile (text source : Bytes) (base depth : Nat) : Except SyntaxFault (Array Code) :=
  match binaryFault? text source with
  | some fault => .error fault
  | none =>
    let code : Code := {
      source, isVararg := true
      captures := #[.upvalue 0], upvalueNames := #[Parse.environmentName] }
    let state : ParserState := { text, source, base, depth, fn := { code, readonlyUpvalues := #[false] } }
    let reader : Parse Unit := do
      Parse.enterBlock false
      Lexer.next
      Parse.statements (Parse.grammar (4 * Parse.depthLimit))
      match ← Parse.token with
      | .eof => pure ()
      | _ => Parse.fail "<eof> expected"
      Parse.write (.ret (← Parse.variableLevel) { count := 0 })
      Parse.leaveBlock
    match reader.run state with
    | .ok _ s => .ok (s.codes.push s.fn.code)
    | .error fault _ => .error fault

end ScriptHost.TableScript
