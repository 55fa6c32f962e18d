import ScriptHost.ProtoScript.Parser.Pattern

/-!
# Statements

The productions for statements.  A statement leaves the operand stack as it found it; in a program
that is evaluated, the value of an expression statement is kept as the value of the program.
-/

namespace ScriptHost.ProtoScript.Parse

open Text (Units)

variable (g : Grammar)

/-! ## Leaving statements -/

/-- Writes a return from inside the present statements: iterators are closed and `finally` parts are
run on the way. -/
def emitReturn (hasValue : Bool) : Parse Unit := do
  let f ← fn
  if !hasValue then emit (.push .undefined)
  if f.code.kind == .asyncGenerator then emit .await
  for t in f.breaks do
    if t.hasIterator then
      emit .nipHandler
      emit .iterateCloseUnder
    else if t.hasHandler then
      emit .nipHandler
      closeScopes t.handlerDepth t.depth
      match t.finallyAt with
      | some l => emit (.gosub l)
      | none => pure ()
  emit .returnValue

/-- Writes the way out of one statement. -/
def leave (t : BreakTarget) : Parse Unit := do
  if t.hasIterator then emit .iterateClose
  for _ in [0:t.drops] do emit .drop
  if t.hasHandler then emit .popHandler
  match t.finallyAt with
  | some l =>
    emit (.push .undefined)
    emit (.gosub l)
    emit .drop
  | none => pure ()

/-- Writes a jump out of the present statements. -/
def emitBreak (label : Option String) (isContinue : Bool) : Parse Unit := do
  let rec go (open0 : Nat) : List BreakTarget → Parse Unit
    | [] =>
      if label.isSome then fail "break/continue label not found"
      else if isContinue then fail "continue must be inside loop"
      else fail "break must be inside loop or switch"
    | t :: rest => do
      -- the scopes inside the statement end here, for the path that leaves
      closeScopes open0 t.depth
      let target := if isContinue then t.continueTo.filter fun _ => label.isNone || t.label == label
        else t.breakTo.filter fun _ => t.label == label || (label.isNone && !t.regular)
      match target with
      | some l => emit (.jump l)
      | none =>
        leave t
        go t.depth rest
  go (← scopeDepth) (← fn).breaks

/-- The value of the program starts anew. -/
def clearCompletion : Parse Unit := do
  if (← fn).isEval then emit .clearCompletion

/-- Parses statements up to a closing brace. -/
def blockBody : Parse Unit := do
  expect "\x7b"
  if !(← isPunct "\x7d") then
    pushScope
    repeatStep do
      g.statement .all
      return !(← isPunct "\x7d")
    popScope
  next

/-- A statement where no declaration may stand. -/
def bareStatement : Parse Unit := g.statement {}

/-! ## Conditionals and loops -/

def ifStatement : Parse Unit := do
  next
  pushScope
  clearCompletion
  parenthesised g
  let otherwise ← newLabel
  emit (.jumpFalse otherwise)
  let mask : DeclMask := { functions := !(← isStrict) }
  g.statement mask
  if ← isKeyword "else" then
    let done ← newLabel
    emit (.jump done)
    next
    placeLabel otherwise
    g.statement mask
    placeLabel done
  else placeLabel otherwise
  popScope

def whileStatement (label : Option String) : Parse Unit := do
  let again ← newLabel
  let done ← newLabel
  pushBreak { label, breakTo := some done, continueTo := some again }
  next
  clearCompletion
  placeLabel again
  parenthesised g
  emit (.jumpFalse done)
  bareStatement g
  emit (.jump again)
  placeLabel done
  popBreak

def doStatement (label : Option String) : Parse Unit := do
  let again ← newLabel
  let test ← newLabel
  let done ← newLabel
  pushBreak { label, breakTo := some done, continueTo := some test }
  next
  placeLabel again
  clearCompletion
  bareStatement g
  placeLabel test
  if !(← isKeyword "while") then fail "expecting 'while'"
  next
  parenthesised g
  if ← isPunct ";" then next
  emit (.jumpTrue again)
  placeLabel done
  popBreak

/-- Whether `let` at the present token starts a declaration. -/
def isLet (others : Bool) : Parse Bool := do
  if !(← isName "let") then return false
  let (t, newline) ← Lexer.peek
  match t with
  | .punct "[" => return true
  | .punct "\x7b" => return others || !newline
  | .ident _ _ reserved => return !reserved && (others || !newline)
  | .keyword k => return ["let", "yield", "await"].contains k && (others || !newline)
  | _ => return false

/-- The kind of declaration that the present token starts. -/
def declarationKind? (others : Bool) : Parse (Option DeclKind) := do
  if ← isKeyword "var" then return some .var
  if ← isKeyword "const" then return some .constVar
  if (← isKeyword "let") || (← isLet others) then return some .letVar
  return none

/-- Copies the scope of a loop, so that each round has variables of its own. -/
def renewLoopScope : Parse Unit := do
  emit .renewScope
  updateFn fun f => { f with
    lastOp := none
    scopes := match f.scopes with
      | [] => []
      | sc :: rest => { sc with leaves := (f.code.instrs.size - 1) :: sc.leaves } :: rest }

/-- A loop with three parts, after its opening parenthesis. -/
def countingLoop (label : Option String) : Parse Unit := do
  pushScope
  match ← declarationKind? true with
  | some kind =>
    next
    declarations g false kind
  | none =>
    if !(← isPunct ";") then
      g.expression false
      emit .drop
  expect ";"
  let test ← newLabel
  let again ← newLabel
  let body ← newLabel
  let done ← newLabel
  let hasTest := !(← isPunct ";")
  -- without a test, rounds begin with the body; without a step, with the test
  pushBreak { label, breakTo := some done, continueTo := some again }
  let first ← newLabel
  emit (.jump first)
  placeLabel test
  renewLoopScope
  placeLabel first
  if hasTest then
    g.expression true
    emit (.jumpFalse done)
  expect ";"
  if ← isPunct ")" then
    emit (.jump body)
    placeLabel again
    emit (.jump test)
  else
    emit (.jump body)
    placeLabel again
    renewLoopScope
    g.expression true
    emit .drop
    emit (.jump first)
  expect ")"
  placeLabel body
  bareStatement g
  emit (.jump again)
  placeLabel done
  popBreak
  popScope

/-- The target of a loop over names or values; the value is on the stack.  Answers the declared name
and kind. -/
def loopTarget (isAsync : Bool) : Parse (Option DeclKind × Option String × Bool) := do
  match ← declarationKind? true with
  | some kind =>
    next
    match ← name? with
    | some name =>
      markToken
      next
      defineVar kind name
      emit (if kind == .var then .putVar name else .initVar name)
      return (some kind, some name, false)
    | none =>
      if (← isPunct "[") || (← isPunct "\x7b") then
        let _ ← g.pattern { decl := some kind, hasValue := true, mayInitialize := false }
        emit .drop
        return (some kind, none, true)
      else fail "variable name expected"
  | none =>
    let (t, _) ← Lexer.peek
    let ofNext := match t with
      | .ident "of" _ _ => true
      | _ => false
    if !isAsync && (← isName "async") && ofNext then
      fail "'for of' expression cannot start with 'async'"
    if (← isPunct "[") || (← isPunct "\x7b") then
      let (after, bits) ← scanBrackets false
      let isPattern := match after with
        | some (.keyword "in") | some (.ident "of" _ _) => true
        | _ => false
      if isPattern then
        let _ ← g.pattern
          { decl := none, hasValue := true, hasEllipsis := some bits.ellipsis }
        emit .drop
        return (none, none, true)
    memberExpression g true
    let l ← takeLValue false "invalid for in/of left hand-side"
    raise l
    putLValue l
    return (none, none, false)

/-- A loop over names or values, after its opening parenthesis. -/
def iteratingLoop (label : Option String) (isAsync : Bool) : Parse Unit := do
  let again ← newLabel
  let body ← newLabel
  let done ← newLabel
  let take ← newLabel
  let start ← newLabel
  pushScope
  let target : BreakTarget := { label, breakTo := some done, continueTo := some again }
  pushBreak { target with drops := 1 }
  emit (.jump start)
  placeLabel take
  renewLoopScope
  let (kind, name, isPattern) ← loopTarget g isAsync
  emit (.jump body)
  placeLabel start
  let initialized ← isPunct "="
  if initialized then
    next
    g.assign false
    match name with
    | some name => emit (.putVar name)
    | none => emit .drop
  let refuse (word : String) : Parse Unit :=
    fail ("a declaration in the head of a for-" ++ word ++ " loop can't have an initializer")
  let isOf ← isName "of"
  if isOf then
    if initialized then refuse "of"
  else if ← isKeyword "in" then
    if isAsync then fail "'for await' loop should be used with 'of'"
    if initialized && (kind != some .var || (← isStrict) || isPattern) then refuse "in"
  else fail "expected 'of' or 'in' in for control expression"
  next
  if isOf then g.assign true else g.expression true
  if isOf then
    popBreak
    pushBreak { target with hasIterator := true }
    emit (.iterate isAsync)
  else emit .forIn
  emit (.jump again)
  expect ")"
  placeLabel body
  bareStatement g
  placeLabel again
  emit (if isOf then .iterateNext else .forInNext)
  emit (.jumpFalse take)
  emit .drop
  if isOf then
    emit .iterateDone
    let out ← newLabel
    emit (.jump out)
    -- `break` arrives here with the iterator still open
    placeLabel done
    emit .iterateClose
    placeLabel out
  else
    placeLabel done
    emit .drop
  popBreak
  popScope

def forStatement (label : Option String) : Parse Unit := do
  next
  clearCompletion
  let mut isAsync := false
  let mut semicolons := false
  if ← isPunct "(" then semicolons := (← scanBrackets false).2.semicolon
  else if ← isKeyword "await" then
    let kind := (← fn).code.kind
    if kind != .async && kind != .asyncGenerator then
      fail "for await is only valid in asynchronous functions"
    isAsync := true
    next
  expect "("
  if semicolons then countingLoop g label else iteratingLoop g label isAsync

/-! ## Other statements -/

/-- The clauses of a `switch`: the label of the next test, and the place of `default`. -/
def switchClauses (testAt : Option Nat) (defaultAt : Option Nat) :
    Nat → Parse (Option Nat × Option Nat)
  | 0 => return (testAt, defaultAt)
  | fuel + 1 => do
    if ← isPunct "\x7d" then return (testAt, defaultAt)
    if ← isKeyword "case" then
      let enter ← newLabel
      if testAt.isSome then emit (.jump enter)
      match testAt with
      | some l => placeLabel l
      | none => pure ()
      let nextTest ← newLabel
      repeatStep do
        next
        emit .dup
        g.expression true
        expect ":"
        emit (.binary .strictEq)
        if ← isKeyword "case" then
          emit (.jumpTrue enter)
          return true
        else
          emit (.jumpFalse nextTest)
          return false
      placeLabel enter
      switchClauses (some nextTest) defaultAt fuel
    else if ← isKeyword "default" then
      next
      expect ":"
      if defaultAt.isSome then fail "duplicate default"
      let testAt ← match testAt with
        | some l => pure l
        | none => do
          let l ← newLabel
          emit (.jump l)
          pure l
      let l ← newLabel
      placeLabel l
      switchClauses (some testAt) (some l) fuel
    else
      if testAt.isNone then fail "invalid switch statement"
      g.statement .all
      switchClauses testAt defaultAt fuel

def switchStatement (label : Option String) : Parse Unit := do
  next
  clearCompletion
  parenthesised g
  pushScope
  let done ← newLabel
  pushBreak { label, breakTo := some done, drops := 1 }
  expect "\x7b"
  let (testAt, defaultAt) ← switchClauses g none none ((← get).size + 2)
  expect "\x7d"
  match testAt, defaultAt with
  | some l, some d =>
    -- all tests failed: the default clause is next
    emit (.jump done)
    placeLabel l
    emit (.jump d)
  | some l, none => placeLabel l
  | none, _ => pure ()
  placeLabel done
  popBreak
  popScope
  emit .drop

/-- The parameter of a `catch` part; the error is on the stack. -/
def catchParameter : Parse Unit := do
  if ← isPunct "\x7b" then emit .drop
  else
    expect "("
    match ← name? with
    | some name =>
      next
      defineVar .catchVar name
      emit (.initVar name)
    | none =>
      if (← isPunct "[") || (← isPunct "\x7b") then
        let _ ← g.pattern { decl := some .letVar, hasValue := true }
        emit .drop
      else fail "identifier expected"
    expect ")"

def tryStatement : Parse Unit := do
  clearCompletion
  next
  let catchAt ← newLabel
  let catchAgain ← newLabel
  let finallyAt ← newLabel
  let done ← newLabel
  let goOn : Parse Unit := do
    if ← isLive then
      emit .popHandler
      emit (.push .undefined)
      emit (.gosub finallyAt)
      emit .drop
      emit (.jump done)
  emit (.pushHandler catchAt)
  pushBreak { hasHandler := true, finallyAt := some finallyAt }
  blockBody g
  popBreak
  goOn
  if ← isKeyword "catch" then
    next
    placeLabel catchAt
    let depth ← scopeDepth
    pushScope
    catchParameter g
    emit (.pushHandler catchAgain)
    pushBreakAt { hasHandler := true, finallyAt := some finallyAt } depth (depth + 1)
    pushScope
    blockBody g
    popScope
    popBreak
    let caught ← newLabel
    if ← isLive then
      emit .popHandler
      emit (.jump caught)
    placeLabel catchAgain
    closeScopes (depth + 1) depth
    emit (.gosub finallyAt)
    emit .throwValue
    placeLabel caught
    popScope
    emit (.push .undefined)
    emit (.gosub finallyAt)
    emit .drop
    emit (.jump done)
  else if ← isKeyword "finally" then
    placeLabel catchAt
    emit (.gosub finallyAt)
    emit .throwValue
  else fail "expecting catch or finally"
  placeLabel finallyAt
  if ← isKeyword "finally" then
    next
    let isEval := (← fn).isEval
    -- the value of the program is kept below the block, which must not change it
    pushBreak { drops := if isEval then 3 else 2 }
    if isEval then
      emit .getCompletion
      emit .clearCompletion
    blockBody g
    if isEval then emit .setCompletion
    popBreak
  emit .endSub
  placeLabel done

def withStatement : Parse Unit := do
  if ← isStrict then fail "invalid keyword: with"
  next
  parenthesised g
  emit .requireObject
  emit .enterWith
  updateFn (openScope true)
  clearCompletion
  bareStatement g
  emit .leaveScope
  updateFn dropScope

/-- A statement after its label. -/
def labelledStatement (label : String) (mask : DeclMask) : Parse Unit := do
  let done ← newLabel
  pushBreak { label := some label, breakTo := some done, regular := true }
  let inner : DeclMask :=
    if !(← isStrict) && mask.labelledFunctions then ⟨true, true, false⟩ else {}
  g.statement inner
  placeLabel done
  popBreak

/-- An expression as a statement. -/
def expressionStatement : Parse Unit := do
  g.expression true
  emit (if (← fn).isEval then .setCompletion else .drop)
  expectSemi

/-- A declaration of variables as a statement. -/
def declarationStatement (kind : DeclKind) (mask : DeclMask) : Parse Unit := do
  if kind != .var && !mask.others then
    fail "lexical declarations can't appear in single-statement context"
  next
  declarations g true kind
  expectSemi

/-- A function in an inner block. -/
def blockFunction (kind : FunctionKind) : Parse Unit := do
  let _ ← g.function .blockDeclaration kind (← get).start

/-- A statement that a name starts. -/
def nameStatement (mask : DeclMask) : Parse Unit := do
  if (← name?).isNone then failReserved
  if ← isLet mask.others then declarationStatement g .letVar mask
  else
    let (t, newline) ← Lexer.peek
    let isFunction := match t with
      | .keyword "function" => true
      | _ => false
    if (← isName "async") && isFunction && !newline then
      if !mask.others then fail "function declarations can't appear in single-statement context"
      blockFunction g .normal
    else expressionStatement g

/-- A jump out of statements. -/
def jumpStatement (isContinue : Bool) : Parse Unit := do
  next
  let label ← if (← get).newline then pure none else name?
  emitBreak label isContinue
  if label.isSome then next
  expectSemi

/-- A statement that starts with a reserved word or punctuation. -/
def statementOf (label : Option String) (mask : DeclMask) : Parse Unit := do
  match ← token with
  | .punct "\x7b" => blockBody g
  | .punct ";" => next
  | .ident _ _ _ => nameStatement g mask
  | .keyword k =>
    match k with
    | "return" =>
      if (← fn).isEval then fail "return not in a function"
      next
      let ends := (← isPunct ";") || (← isPunct "\x7d")
      if !ends && !(← get).newline then
        g.expression true
        emitReturn true
      else emitReturn false
      expectSemi
    | "throw" =>
      next
      if (← get).newline then fail "line terminator not allowed after throw"
      g.expression true
      emit .throwValue
      expectSemi
    | "let" => declarationStatement g .letVar mask
    | "const" => declarationStatement g .constVar mask
    | "var" => declarationStatement g .var mask
    | "if" => ifStatement g
    | "while" => whileStatement g label
    | "do" => doStatement g label
    | "for" => forStatement g label
    | "break" => jumpStatement false
    | "continue" => jumpStatement true
    | "switch" => switchStatement g label
    | "try" => tryStatement g
    | "with" => withStatement g
    | "function" =>
      let star ← peekPunct "*" false
      if !mask.functions || (!mask.others && star) then
        fail "function declarations can't appear in single-statement context"
      blockFunction g .normal
    | "class" =>
      if !mask.others then
        fail "class declarations can't appear in single-statement context"
      g.classBody false
    | "debugger" =>
      next
      expectSemi
    | "enum" | "export" | "extends" => fail ("unsupported keyword: " ++ k)
    | _ => expressionStatement g
  | _ => expressionStatement g

/-- Parses a statement. -/
def statementExpression (mask : DeclMask) : Parse Unit := do
  match ← name? with
  | some label =>
    if ← peekPunct ":" false then
      if (← fn).breaks.any (·.label == some label) then fail "duplicate label name"
      next
      expect ":"
      if (← isKeyword "for") || (← isKeyword "do") || (← isKeyword "while") then
        statementOf g (some label) mask
      else labelledStatement g label mask
    else statementOf g none mask
  | none => statementOf g none mask

end ScriptHost.ProtoScript.Parse
