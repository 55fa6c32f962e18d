import ScriptHost.TableScript.Operator
import ScriptHost.TableScript.Parser.Lexer

/-!
# Expressions

* `Grammar` — the productions that refer to one another; each one is written as a function of the
  others.
* `Parse.binaryExpression` — expressions with operators, by precedence.
* `Parse.suffixed` — variables, fields, calls.
* `Parse.tableConstructor`, `Parse.functionBody` — tables and functions.
-/

namespace ScriptHost.TableScript

open Text (Bytes)

/-- The productions that refer to one another. -/
structure Grammar where
  /-- An expression whose operators bind more strongly than a limit. -/
  expr : Nat → Parse Exp
  statement : Parse Unit

/-- An operator between two expressions. -/
inductive BinaryOp where
  | arith (op : ArithOp)
  | compare (op : CompareOp) (negate swap : Bool)
  | concat | and | or
deriving Inhabited

/-- An operator with its precedence toward the left and toward the right. -/
def BinaryOp.ofText? : String → Option (BinaryOp × Nat × Nat)
  | "+" => some (.arith .add, 10, 10)
  | "-" => some (.arith .sub, 10, 10)
  | "*" => some (.arith .mul, 11, 11)
  | "%" => some (.arith .mod, 11, 11)
  | "^" => some (.arith .pow, 14, 13)
  | "/" => some (.arith .div, 11, 11)
  | "//" => some (.arith .floorDiv, 11, 11)
  | "&" => some (.arith .bitAnd, 6, 6)
  | "|" => some (.arith .bitOr, 4, 4)
  | "~" => some (.arith .bitXor, 5, 5)
  | "<<" => some (.arith .shiftLeft, 7, 7)
  | ">>" => some (.arith .shiftRight, 7, 7)
  | ".." => some (.concat, 9, 8)
  | "==" => some (.compare .equal false false, 3, 3)
  | "~=" => some (.compare .equal true false, 3, 3)
  | "<" => some (.compare .less false false, 3, 3)
  | "<=" => some (.compare .lessEqual false false, 3, 3)
  | ">" => some (.compare .less false true, 3, 3)
  | ">=" => some (.compare .lessEqual false true, 3, 3)
  | "and" => some (.and, 2, 2)
  | "or" => some (.or, 1, 1)
  | _ => none

/-- The precedence of operators before an expression. -/
def unaryPrecedence : Nat := 12

/-- An operator before an expression. -/
def UnaryOp.ofText? : String → Option UnaryOp
  | "not" => some .not
  | "-" => some .minus
  | "~" => some .bitNot
  | "#" => some .length
  | _ => none

namespace Parse

open Lexer (next peek repeatStep)

/-! ## Tokens -/

def token : Parse Token := return (← get).token

/-- The line of the present token. -/
def line : Parse Nat := return (← get).line

/-- The present token if it is a reserved word, operator or bracket. -/
def fixed? : Parse (Option String) := do
  match ← token with
  | .fixed t => return some t
  | _ => return none

/-- Whether the present token is the given one. -/
def sees (text : String) : Parse Bool := return (← fixed?) == some text

/-- Passes the given token if it is the present one. -/
def accept (text : String) : Parse Bool := do
  if ← sees text then
    next
    return true
  return false

/-- Passes the given token. -/
def expect (text : String) : Parse Unit := do
  if !(← accept text) then fail ("'" ++ text ++ "' expected")

/-- Passes the token that closes what another one has opened. -/
def expectMatch (closing opening : String) (openingLine : Nat) : Parse Unit := do
  if !(← accept closing) then
    if (← line) == openingLine then fail ("'" ++ closing ++ "' expected")
    else fail ("'" ++ closing ++ "' expected (to close '" ++ opening ++ "' at line "
      ++ toString openingLine ++ ")")

/-- Passes a name. -/
def name : Parse Bytes := do
  match ← token with
  | .name s =>
    next
    return s
  | _ => fail "<name> expected"

/-- The number of productions within one another. -/
def depthLimit : Nat := 200

/-- Reads a production one level deeper. -/
def deeper {α : Type} (act : Parse α) : Parse α := do
  modify fun s => { s with depth := s.depth + 1 }
  if (← get).depth ≥ depthLimit then
    throw { message := .ofString "C stack overflow", isOverflow := true }
  let r ← act
  modify fun s => { s with depth := s.depth - 1 }
  return r

/-- Whether a block ends at the present token; `until` does not end every block. -/
def blockEnds (withUntil : Bool) : Parse Bool := do
  match ← token with
  | .eof => return true
  | .fixed "else" | .fixed "elseif" | .fixed "end" => return true
  | .fixed "until" => return withUntil
  | _ => return false

/-- The statements of a block; `return` is the last one. -/
def statements (g : Grammar) : Parse Unit := repeatStep do
  if ← blockEnds true then return false
  let isLast ← sees "return"
  g.statement
  return !isLast

/-! ## Variables and calls -/

/-- A variable by its name; a name that is declared nowhere is an entry of the environment. -/
def variableNamed (s : Bytes) : Parse Exp := do
  match ← lookUp s with
  | .none => index (← toTable (← lookUp environmentName)) (.const (.str s))
  | e => return e

/-- Expressions with commas; all but the last have gone to registers.  Answers their number and the
last one. -/
def expressions (g : Grammar) : Parse (Nat × Exp) := do
  let rec more : Nat → Nat → Exp → Parse (Nat × Exp)
    | 0, count, e => return (count, e)
    | fuel + 1, count, e => do
      if ← accept "," then
        let _ ← toNext e
        more fuel (count + 1) (← g.expr 0)
      else return (count, e)
  more ((← get).text.size + 2) 1 (← g.expr 0)

/-- Whether an expression has as many values as are asked for. -/
def isOpen : Exp → Bool
  | .call .. | .varargs _ => true
  | _ => false

/-- A key in brackets. -/
def bracketKey (g : Grammar) : Parse Exp := do
  next
  let key ← settle (← g.expr 0)
  expect "]"
  return key

/-- Parameters, body and end of a function; the function goes to the next register. -/
def functionBody (g : Grammar) (isMethod : Bool) (start : Nat) : Parse Exp := do
  let s ← get
  MonadState.set { s with
    fn := { code := { line := start, source := s.source } }, outer := s.fn :: s.outer }
  enterBlock false
  expect "("
  let selfParam := if isMethod then [Bytes.ofString "self"] else []
  let rec parameters : Nat → List Bytes → Parse (List Bytes × Bool)
    | 0, names => return (names, false)
    | fuel + 1, names => do
      match ← token with
      | .name s =>
        next
        checkLocals (names.length + 1)
        if ← accept "," then parameters fuel (names ++ [s]) else return (names ++ [s], false)
      | .fixed "..." =>
        next
        return (names, true)
      | _ => fail "<name> or '...' expected"
  let (names, isVararg) ←
    if ← sees ")" then pure (selfParam, false) else parameters (localLimit + 2) selfParam
  declare (names.map fun n => (n, .regular))
  updateFn fun f => { f with
    code := { f.code with paramCount := names.length, isVararg } }
  let _ ← reserve names.length
  expect ")"
  statements g
  expectMatch "end" "function" start
  write (.ret (← variableLevel) { count := 0 })
  leaveBlock
  let s ← get
  match s.outer with
  | [] => return .none
  | f :: rest =>
    MonadState.set { s with fn := f, outer := rest, codes := s.codes.push s.fn.code }
    let r ← reserve 1
    write (.closure r (s.base + s.codes.size))
    return .temp r .unknown

/-- How far the reading of a table has come. -/
structure TableState where
  register : Nat
  /-- The last list item, if it has not gone to a register yet. -/
  pending : Exp := .none
  /-- The number of items stored, and of those in registers. -/
  stored : Nat := 0
  held : Nat := 0
  entries : Nat := 0

/-- The number of items that are stored at once. -/
def itemsPerStep : Nat := 50

/-- Writes the instruction that stores items. -/
def storeItems (t : TableState) (items : Values) : Parse Unit := do
  write (.setList t.register items t.stored)
  updateFn fun f => { f with free := t.register + 1 }

/-- Lets the last item go to a register. -/
def closeItem (t : TableState) : Parse TableState := do
  match t.pending with
  | .none => return t
  | e =>
    let _ ← toNext e
    if t.held = itemsPerStep then
      storeItems t { count := t.held }
      return { t with pending := .none, stored := t.stored + t.held, held := 0 }
    else return { t with pending := .none }

/-- An entry with a key. -/
def entry (g : Grammar) (t : TableState) : Parse TableState := do
  let free := (← fn).free
  let key ← match ← token with
    | .name s => do
      next
      pure (Exp.const (.str s))
    | _ => bracketKey g
  expect "="
  let place ← index (.temp t.register .unknown) key
  store place (← g.expr 0)
  updateFn fun f => { f with free }
  return { t with entries := t.entries + 1 }

/-- An entry or a list item. -/
def field (g : Grammar) (t : TableState) : Parse TableState := do
  let isEntry ← match ← token with
    | .name _ => do
      match ← peek with
      | .fixed "=" => pure true
      | _ => pure false
    | .fixed "[" => pure true
    | _ => pure false
  if isEntry then entry g t
  else return { t with pending := ← g.expr 0, held := t.held + 1 }

/-- A table between braces. -/
def tableConstructor (g : Grammar) : Parse Exp := do
  let start ← line
  let pc ← emit .nop
  let r ← reserve 1
  expect "\x7b"
  let rec fields : Nat → TableState → Parse TableState
    | 0, t => return t
    | fuel + 1, t => do
      if ← sees "\x7d" then return t
      let t ← field g (← closeItem t)
      if ← accept "," then fields fuel t
      else if ← accept ";" then fields fuel t
      else return t
  let t ← fields ((← get).text.size + 2) { register := r }
  expectMatch "\x7d" "\x7b" start
  let count ← if t.held = 0 then pure 0
    else if isOpen t.pending then do
      setResults t.pending none
      storeItems t { count := t.held - 1, andOpen := true }
      pure (t.held - 1)
    else do
      match t.pending with
      | .none => pure ()
      | e => let _ ← toNext e
      storeItems t { count := t.held }
      pure t.held
  patch pc (.newTable r (t.stored + count) t.entries)
  return .temp r .unknown

/-- The arguments of a call to the function in a register, and the call. -/
def arguments (g : Grammar) (base : Nat) (origin : Origin) : Parse Exp := do
  let start ← line
  let last ← match ← token with
    | .fixed "(" => do
      next
      if ← sees ")" then
        next
        pure Exp.none
      else
        let (_, e) ← expressions g
        if isOpen e then setResults e none
        expectMatch ")" "(" start
        pure e
    | .fixed "\x7b" => tableConstructor g
    | .string s => do
      next
      pure (.const (.str s))
    | _ => fail "function arguments expected"
  let args ← if isOpen last then
      -- the last register in use stands for the open values
      pure { count := (← fn).free - (base + 2), andOpen := true }
    else do
      match last with
      | .none => pure ()
      | e => let _ ← toNext e
      pure ({ count := (← fn).free - (base + 1) } : Values)
  let pc ← emit (.call base args (some 1) origin)
  fixLine start
  updateFn fun f => { f with free := base + 1 }
  return .call pc base

/-- A name or an expression in parentheses. -/
def primary (g : Grammar) : Parse Exp := do
  match ← token with
  | .name s =>
    next
    variableNamed s
  | .fixed "(" =>
    let start ← line
    next
    let e ← g.expr 0
    expectMatch ")" "(" start
    match ← settle e with
    | .localVar r s _ => return .temp r (.localVar s)
    | e => return e
  | _ => fail "unexpected symbol"

/-- A field after its point. -/
def fieldOf (e : Exp) : Parse Exp := do
  let table ← toTable e
  next
  index table (.const (.str (← name)))

/-- The function for a method call: the function and the object go to two registers. -/
def method (e : Exp) (key : Bytes) : Parse Nat := do
  let object ← toAny e
  freeExp object
  let r ← reserve 2
  write (.self r (operandOf object) (.const (.str key)) (originOf object))
  return r

/-- A primary expression with fields and calls. -/
def suffixed (g : Grammar) : Parse Exp := do
  let rec go : Nat → Exp → Parse Exp
    | 0, e => return e
    | fuel + 1, e => do
      match ← token with
      | .fixed "." => go fuel (← fieldOf e)
      | .fixed "[" =>
        let table ← toTable e
        go fuel (← index table (← bracketKey g))
      | .fixed ":" =>
        next
        let key ← name
        let base ← method e key
        go fuel (← arguments g base (.method key))
      | .fixed "(" | .fixed "\x7b" | .string _ =>
        match ← toNext e with
        | .temp base origin => go fuel (← arguments g base origin)
        | e => return e
      | _ => return e
  go ((← get).text.size + 2) (← primary g)

/-! ## Operators -/

/-- An expression without operators. -/
def simple (g : Grammar) : Parse Exp := do
  match ← token with
  | .int i =>
    next
    return .const (.int i)
  | .float x =>
    next
    return .const (.num x)
  | .string s =>
    next
    return .const (.str s)
  | .fixed "nil" =>
    next
    return .const .nil
  | .fixed "true" =>
    next
    return .const (.bool true)
  | .fixed "false" =>
    next
    return .const (.bool false)
  | .fixed "..." =>
    if !(← fn).code.isVararg then fail "cannot use '...' outside a vararg function"
    let pc ← emit (.varargs 0 none)
    next
    return .varargs pc
  | .fixed "\x7b" => tableConstructor g
  | .fixed "function" =>
    next
    functionBody g false (← line)
  | _ => suffixed g

/-- The constant that an operation on two constants gives, if it is neither zero nor an error. -/
def folded? (op : ArithOp) (a b : Exp) : Option Val :=
  match a, b with
  | .const a, .const b =>
    if a.isNumber && b.isNumber then
      match op.compute? a b with
      | some (.ok (.int i)) => some (.int i)
      | some (.ok (.num x)) => if x.isNaN || x == 0.0 then none else some (.num x)
      | _ => none
    else none
  | _, _ => none

/-- The value of an operation on one value. -/
def applyUnary (op : UnaryOp) (e : Exp) (opLine : Nat) : Parse Exp := do
  let e ← settle e
  let constant : Option Val := match op, e with
    | .minus, .const v => match v.negate? with
      | some (.num x) => if x == 0.0 then none else some (.num x)
      | r => r
    | .not, .const v => some (.bool (!v.isTrue))
    | .bitNot, .const v => if v.isNumber then v.exactInteger?.map fun i => .int (~~~i) else none
    | _, _ => none
  match constant with
  | some v => return .const v
  | none =>
    freeExp e
    let r ← reserve 1
    write (.unary op r (operandOf e) (originOf e))
    fixLine opLine
    return .temp r .unknown

/-- The left operand, before the right one is read.  Answers the operand and the place of a jump to
the end of the operation. -/
def leftOperand (op : BinaryOp) (e : Exp) : Parse (Exp × Nat) := do
  match op with
  | .and | .or =>
    let e ← toNext e
    let onTrue := match op with
      | .or => true
      | _ => false
    return (e, ← emit (.jumpIf onTrue (operandOf e) 0))
  | .concat => return (← toNext e, 0)
  | _ => return (← settle e, 0)

/-- The concatenation of two registers that follow one another.  One that was just written takes the
left register in. -/
def concatenation (left right : Exp) (opLine : Nat) : Parse Exp := do
  let f ← fn
  let r := regOf left
  let size := f.code.instrs.size
  match f.code.instrs[size - 1]? with
  | some (.concat dst count origins) =>
    if dst == r + 1 && f.lastTarget != size then
      patch (size - 1) (.concat r (count + 1) (#[originOf left] ++ origins))
    else
      write (.concat r 2 #[originOf left, originOf right])
      fixLine opLine
  | _ =>
    write (.concat r 2 #[originOf left, originOf right])
    fixLine opLine
  updateFn fun f => { f with free := r + 1 }
  return .temp r .unknown

/-- The value of an operation on two values, of which the right one was just read. -/
def applyBinary (op : BinaryOp) (left right : Exp) (jumpPc opLine : Nat) : Parse Exp := do
  match op with
  | .and | .or =>
    let r := regOf left
    let right ← settle right
    updateFn fun f => { f with free := r }
    let _ ← toNext right
    aimHere jumpPc
    return .temp r .unknown
  | .concat => concatenation left (← toNext right) opLine
  | .arith op =>
    let right ← settle right
    match folded? op left right with
    | some v => return .const v
    | none =>
      freeExp right
      freeExp left
      let r ← reserve 1
      write (.arith op r (operandOf left) (operandOf right) (originOf left) (originOf right))
      fixLine opLine
      return .temp r .unknown
  | .compare op negate swap =>
    let right ← settle right
    freeExp right
    freeExp left
    let r ← reserve 1
    let (a, b) := if swap then (right, left) else (left, right)
    write (.compare op negate r (operandOf a) (operandOf b))
    fixLine opLine
    return .temp r .unknown

/-- An operator between expressions, if the present token is one. -/
def binaryOp? : Parse (Option (BinaryOp × Nat × Nat)) := return (← fixed?).bind BinaryOp.ofText?

/-- An expression whose operators bind more strongly than a limit. -/
def binaryExpression (g : Grammar) (limit : Nat) : Parse Exp := deeper do
  let first ← match (← fixed?).bind UnaryOp.ofText? with
    | some op => do
      let opLine ← line
      next
      applyUnary op (← g.expr unaryPrecedence) opLine
    | none => simple g
  let rec go : Nat → Exp → Parse Exp
    | 0, e => return e
    | fuel + 1, e => do
      match ← binaryOp? with
      | none => return e
      | some (op, left, right) =>
        if left ≤ limit then return e
        let opLine ← line
        next
        let (e, jumpPc) ← leftOperand op e
        let second ← g.expr right
        go fuel (← applyBinary op e second jumpPc opLine)
  go ((← get).text.size + 2) first

end Parse

end ScriptHost.TableScript
