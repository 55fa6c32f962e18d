import ScriptHost.ProtoScript.Parser.Grammar
import ScriptHost.Decimal.Shortest
import ScriptHost.Regex.Parser

/-!
# Expressions

The productions for expressions, from literals up to assignments.  Code is written in the order of the
text, so an operand's code stands before its operator's.
-/

namespace ScriptHost.ProtoScript.Parse

open Text (Units)

variable (g : Grammar)

/-! ## Templates -/

/-- A part of a template with its escapes read: `none` if one is malformed. -/
def cookedPart : Parse (Option Units) := do
  let s ← get
  match ← Lexer.stringBody (Char.ofNat 0x60) s.size (s.start.skip 1) #[] with
  | some (u, _) =>
    modify fun s' => { s' with line := s.line, lineStart := s.lineStart }
    return some u
  | none => return none

/-- Parses the expression embedded in a template and goes on to the next part. -/
def templateHole : Parse Unit := do
  next
  g.expression true
  if !(← isPunct "\x7d") then fail "expected '\x7d' after template expression"
  Lexer.templatePart

/-- The parts of a template without a tag after the first: `count` values are on the stack. -/
def templateParts : Nat → Nat → Parse Nat
  | 0, count => return count
  | fuel + 1, count => do
    match ← token with
    | .template _ last =>
      match ← cookedPart with
      | none => fail "malformed escape sequence in string literal"
      | some u =>
        let mut count := count
        if u.size != 0 then
          emit (.push (.str u))
          count := count + 1
        if last then return count
        templateHole g
        templateParts fuel (count + 1)
    | _ => fail "unexpected token in template"

/-- Parses a template without a tag. -/
def template : Parse Unit := do
  match ← token with
  | .template _ last =>
    match ← cookedPart with
    | none => fail "malformed escape sequence in string literal"
    | some u =>
      emit (.push (.str u))
      if !last then
        emit (.getFieldKeep "concat")
        templateHole g
        let count ← templateParts g ((← get).size + 2) 1
        emit (.callMethod count)
      next
  | _ => return

/-- The texts of a tagged template; the embedded values are pushed. -/
def taggedParts : Nat → List (Option Units) → List Units → Nat →
    Parse (List (Option Units) × List Units × Nat)
  | 0, cooked, raw, count => return (cooked.reverse, raw.reverse, count)
  | fuel + 1, cooked, raw, count => do
    match ← token with
    | .template u last =>
      let c ← try cookedPart catch _ => pure none
      if last then return ((c :: cooked).reverse, (u :: raw).reverse, count)
      templateHole g
      taggedParts fuel (c :: cooked) (u :: raw) (count + 1)
    | _ => fail "unexpected token in template"

/-- Parses the arguments that a template makes for its tag; their number. -/
def taggedTemplate : Parse Nat := do
  emit (.templateObject [] [])
  let at0 := (← fn).code.instrs.size - 1
  let (cooked, raw, count) ← taggedParts g ((← get).size + 2) [] [] 0
  patch at0 (.templateObject cooked raw)
  next
  return count + 1

/-! ## Literals -/

/-- The text of a number as a property name. -/
def numberName (x : Float) : String :=
  Decimal.renderFloat Decimal.mixed "NaN" "Infinity" "0" x

/-- What comes in front of a property name. -/
inductive PropertyForm where
  | plain | shorthand | getter | setter | generator | async | asyncGenerator
deriving DecidableEq

/-- A property name: `none` if it is computed and on the stack. -/
structure PropertyName where
  name : Option String
  form : PropertyForm
  isPrivate : Bool := false

/-- Whether the present token ends a property name that looks like a modifier. -/
def endsPropertyName (inClass : Bool) : Parse Bool := do
  match ← token with
  | .punct p => return [":", ",", "\x7d", "(", "="].contains p || (p == ";" && inClass)
  | _ => return false

/-- Parses a property name. -/
def propertyName (allowMethod allowVar allowPrivate : Bool) : Parse PropertyName := do
  let found (form : PropertyForm) (plainName : Bool) (name : String) : Parse PropertyName := do
    let mut form := form
    if plainName && form == .plain && allowVar then
      if !((← isPunct ":") || ((← isPunct "(") && allowMethod)) then form := .shorthand
    if form != .plain && form != .shorthand && !(← isPunct "(") then fail "invalid property name"
    return ⟨some name, form, false⟩
  let finish (form : PropertyForm) : Parse PropertyName := do
    match ← token with
    | .ident name _ reserved =>
      next
      found form (!reserved) name
    | .keyword name =>
      next
      found form false name
    | .string u =>
      next
      found form false u.toString
    | .number x =>
      next
      found form false (numberName x)
    | .bigint i =>
      next
      found form false (toString i)
    | .privateName name =>
      if !allowPrivate then fail "invalid property name"
      next
      if form != .plain && !(← isPunct "(") then fail "invalid property name"
      return ⟨some name, form, true⟩
    | .punct "[" =>
      next
      g.expression true
      expect "]"
      if form != .plain && !(← isPunct "(") then fail "invalid property name"
      return ⟨none, form, false⟩
    | _ => fail "invalid property name"
  if !allowMethod then finish .plain
  else
    let peeked ← Lexer.peek
    if ((← isName "get") || (← isName "set")) && !(allowPrivate && peeked.2) then
      let isGet ← isName "get"
      next
      if ← endsPropertyName allowPrivate then
        found .plain true (if isGet then "get" else "set")
      else finish (if isGet then .getter else .setter)
    else if ← isPunct "*" then
      next
      finish .generator
    else if (← isName "async") && !peeked.2 then
      next
      if ← endsPropertyName allowPrivate then found .plain true "async"
      else if ← isPunct "*" then
        next
        finish .asyncGenerator
      else finish .async
    else finish .plain

/-- The kind of function that a property form makes. -/
def PropertyForm.kind : PropertyForm → FunctionKind
  | .generator => .generator
  | .async => .async
  | .asyncGenerator => .asyncGenerator
  | _ => .normal

/-- The role of a method of a property form. -/
def PropertyForm.role : PropertyForm → MethodRole
  | .getter => .getter
  | .setter => .setter
  | _ => .method

/-- What a method of a property form is parsed as. -/
def PropertyForm.functionRole : PropertyForm → FunctionRole
  | .getter => .getter
  | .setter => .setter
  | _ => .method

/-- Writes the definition of a method whose function was just parsed. -/
def defineMethod (p : PropertyName) (code : Nat) (enumerable : Bool) : Parse Unit := do
  emit (.closure code)
  match p.name with
  | some name => emit (.defineMethod name p.form.role enumerable)
  | none => emit (.defineMethodElem p.form.role enumerable)

/-- One property of an object literal; tells whether it sets the prototype. -/
def objectProperty (hasProto : Bool) : Parse Bool := do
  let start := (← get).start
  if ← isPunct "..." then
    next
    g.assign true
    emit .copyProperties
    return hasProto
  let p ← propertyName g true true false
  if p.form == .shorthand then
    let name := p.name.getD ""
    emit (.getVar name)
    emit (.defineField name)
    return hasProto
  else if ← isPunct "(" then
    let code ← g.function p.form.functionRole p.form.kind start
    defineMethod p code true
    return hasProto
  else
    expect ":"
    g.assign true
    match p.name with
    | none =>
      nameLastByKey
      emit .defineElem
      return hasProto
    | some "__proto__" =>
      if hasProto then fail "duplicate __proto__ property name"
      emit .setProto
      return true
    | some name =>
      nameLast name
      emit (.defineField name)
      return hasProto

/-- The properties of an object literal. -/
def objectProperties : Nat → Bool → Parse Unit
  | 0, _ => return
  | fuel + 1, hasProto => do
    if ← isPunct "\x7d" then return
    let hasProto ← objectProperty g hasProto
    if ← isPunct "," then
      next
      objectProperties fuel hasProto

/-- Parses an object literal. -/
def objectLiteral : Parse Unit := do
  next
  emit .newObject
  objectProperties g ((← get).size + 2) false
  expect "\x7d"

/-- Parses an array literal. -/
def arrayLiteral : Parse Unit := do
  next
  emit .newArray
  repeatStep do
    if ← isPunct "]" then return false
    if ← isPunct "," then
      emit .arrayHole
      next
      return true
    if ← isPunct "..." then
      next
      g.assign true
      emit .arraySpread
    else
      g.assign true
      emit .arrayPush
    if ← isPunct "," then
      next
      return true
    else return false
  expect "]"

/-- Parses a regular expression from its slash. -/
def regexpLiteral : Parse Unit := do
  Lexer.regexp
  match ← token with
  | .regexp body flags =>
    match Regex.Flags.read? flags.toString with
    | none => fail "invalid regular expression flags"
    | some f => match Regex.parse body f with
      | .error message => fail message
      | .ok r =>
        emit (.regexp r body)
        next
  | _ => return

/-- Remembers that a function needs `arguments`. -/
def useArguments : Parse Unit := updateFn fun f =>
  { f with code := { f.code with usesArguments := true } }

/-- Parses a name. -/
def identifier (name : String) (reserved : Bool) : Parse Unit := do
  if reserved then failReserved
  if name == "arguments" then
    if !(← fn).argumentsAllowed then
      fail "'arguments' identifier is not allowed in class field initializer"
    useArguments
  let start := (← get).start
  if (← isName "async") && !(← Lexer.peek).2 then
    next
    if ← isKeyword "function" then
      let code ← g.function .expression .async start
      emit (.closure code)
      emit (.setName "")
    else emit (.getVar name)
  else
    next
    emit (.getVar name)

/-- Parses an expression between parentheses. -/
def parenthesised : Parse Unit := do
  expect "("
  g.expression true
  expect ")"

/-- How the next parentheses call what was parsed. -/
inductive CallForm where
  | plain | construct | superCall
deriving DecidableEq

/-- Parses `new` and what follows, without the arguments. -/
def newExpression : Parse (CallForm × Bool) := do
  next
  if ← isPunct "." then
    next
    if !(← isName "target") then fail "expecting target"
    if !(← fn).newTargetAllowed then fail "new.target only allowed within functions"
    next
    emit .newTarget
    settle
    return (.plain, false)
  else
    g.member false
    if ← isPunct "(" then return (.construct, true)
    else
      emit .dup
      emit (.construct 0)
      return (.plain, true)

/-- Parses `super` and checks what follows. -/
def superExpression : Parse CallForm := do
  next
  if ← isPunct "(" then
    if !(← fn).superCallAllowed then fail "super() is only valid in a derived class constructor"
    return .superCall
  else if (← isPunct ".") || (← isPunct "[") then
    if !(← fn).superAllowed then fail "'super' is only valid in a method"
    emit .this
    emit .superBase
    return .plain
  else fail "invalid use of 'super'"

/-- Parses a primary expression: how it is called, and whether parentheses may follow even in a
position that does not admit calls. -/
def primary : Parse (CallForm × Bool) := do
  markToken
  let plain := (CallForm.plain, false)
  let constant (v : Val) : Parse (CallForm × Bool) := do
    emit (.push v)
    next
    return plain
  let s ← get
  match s.token with
  | .number x => constant (.num x)
  | .bigint i => constant (.big i)
  | .string u => constant (.str u)
  | .template _ _ =>
    template g
    return plain
  | .ident name _ reserved =>
    identifier g name reserved
    return plain
  | .punct p =>
    match p with
    | "/" | "/=" =>
      regexpLiteral
      return plain
    | "(" =>
      parenthesised g
      return plain
    | "\x7b" | "[" =>
      let (after, bits) ← scanBrackets false
      if Token.isPunct after "=" then
        let _ ← g.pattern
          { decl := none, hasValue := false, hasEllipsis := some bits.ellipsis }
      else if p == "[" then arrayLiteral g
      else objectLiteral g
      return plain
    | _ => fail ("unexpected token in expression: '" ++ (← tokenText) ++ "'")
  | .keyword k =>
    match k with
    | "function" =>
      let code ← g.function .expression .normal s.start
      emit (.closure code)
      if ((← get).codes[code - s.base]?.map (·.name)) == some "" then emit (.setName "")
      return plain
    | "class" =>
      g.classBody true
      return plain
    | "null" => constant .null
    | "true" => constant (.bool true)
    | "false" => constant (.bool false)
    | "this" =>
      next
      emit .this
      return plain
    | "new" => newExpression g
    | "super" => return (← superExpression, false)
    | _ => fail ("unexpected token in expression: '" ++ (← tokenText) ++ "'")
  | _ => fail ("unexpected token in expression: '" ++ (← tokenText) ++ "'")

/-! ## Member expressions and calls -/

/-- What is on the stack for a call. -/
inductive CallShape where
  | bare | method | eval
deriving DecidableEq

/-- Turns the last code into what a call needs. -/
def prepareCall (optional tagged : Bool) : Parse CallShape := do
  match ← lastInstr with
  | some (.getField name) =>
    unwrite
    emit (.getFieldKeep name)
    return .method
  | some .getPrivate =>
    unwrite
    emit .getPrivateMethod
    return .method
  | some .getElem =>
    unwrite
    emit .getElemMethod
    return .method
  | some .getSuper =>
    unwrite
    emit .getSuperMethod
    return .method
  | some (.getVar name) =>
    if name == "eval" && !optional && !tagged then
      useArguments
      return .eval
    unwrite
    emit (.calleeVar name)
    return .method
  | _ => return .bare

/-- Ends an optional chain if its value is missing; the label of its end. -/
def optionalTest (chainEnd : Option Nat) (drops : Nat) : Parse Nat := do
  let l ← match chainEnd with
    | some l => pure l
    | none => newLabel
  emit .dup
  emit .isNullish
  let goOn ← newLabel
  emit (.jumpFalse goOn)
  for _ in [0:drops] do emit .drop
  emit (.push .undefined)
  emit (.jump l)
  placeLabel goOn
  return l

/-- Parses arguments up to the first spread one: their number, and whether a spread one follows. -/
def plainArguments : Nat → Nat → Parse (Nat × Bool)
  | 0, n => return (n, false)
  | fuel + 1, n => do
    if ← isPunct ")" then return (n, false)
    if ← isPunct "..." then return (n, true)
    g.assign true
    if ← isPunct ")" then return (n + 1, false)
    expect ","
    plainArguments fuel (n + 1)

/-- Parses arguments: `none` if they were collected in an array, else their number. -/
def arguments : Parse (Option Nat) := do
  let (n, spread) ← plainArguments g ((← get).size + 2) 0
  if !spread then
    next
    return some n
  emit (.collect n)
  repeatStep do
    if ← isPunct ")" then return false
    if ← isPunct "..." then
      next
      g.assign true
      emit .arraySpread
    else
      g.assign true
      emit .arrayPush
    if ← isPunct ")" then return false
    expect ","
    return true
  next
  return none

/-- Parses the arguments of a call and writes the call, which belongs to a column. -/
def finishCall (form : CallForm) (shape : CallShape) (column : Nat) : Parse Unit := do
  match form with
  | .superCall =>
    emit .superConstructor
    emit .newTarget
  | .construct => emit .dup
  | .plain => pure ()
  let args ← arguments g
  markColumn column
  match form, shape, args with
  | .plain, .method, some n => emit (.callMethod n)
  | .plain, .bare, some n => emit (.call n)
  | .plain, .eval, some n => emit (.directEval n)
  | .plain, .method, none => emit .apply
  | .plain, _, none =>
    -- there is no `this` below the function yet
    emit (.push .undefined)
    emit .rotRight3
    emit .apply
  | _, _, some n => emit (.construct n)
  | _, _, none => emit .constructApply
  if form == .superCall then
    emit .bindThis
    emit .initFields

/-- Parses the property name after a dot. -/
def fieldAccess (chainEnd : Option Nat) (optional : Bool) : Parse (Option Nat × Nat) := do
  let column ← tokenColumn
  let test : Parse (Option Nat) := do
    if optional then return some (← optionalTest chainEnd 1) else return chainEnd
  let last ← lastInstr
  let onSuper := match last with
    | some .superBase => true
    | _ => false
  match ← token with
  | .privateName name =>
    if onSuper then fail "private class field forbidden after super"
    let chainEnd ← test
    markColumn column
    emit (.getVar ("#" ++ name))
    emit .getPrivate
    next
    return (chainEnd, column)
  | _ => match ← anyName? with
    | none => fail "expecting field name"
    | some name =>
      let chainEnd ← if onSuper then do
          emit (.push (.str (Units.ofString name)))
          markColumn column
          emit .getSuper
          pure chainEnd
        else do
          let chainEnd ← test
          markColumn column
          emit (.getField name)
          pure chainEnd
      next
      return (chainEnd, column)

/-- Parses an index between brackets. -/
def indexAccess (chainEnd : Option Nat) (optional : Bool) : Parse (Option Nat) := do
  let last ← lastInstr
  let chainEnd ← if optional then do pure (some (← optionalTest chainEnd 1)) else pure chainEnd
  next
  g.expression true
  expect "]"
  match last with
  | some .superBase => emit .getSuper
  | _ => emit .getElem
  return chainEnd

/-- Parses the accesses and calls after a primary expression. -/
def accesses (calls : Bool) : Nat → CallForm → Bool → Option Nat → Nat → Parse (Option Nat)
  | 0, _, _, chainEnd, _ => return chainEnd
  | fuel + 1, form, parens, chainEnd, column => do
    let call (optional tagged : Bool) : Parse (Option Nat) := do
      let shape ← if form == .plain then prepareCall optional tagged else pure .bare
      let chainEnd ← if optional then do
          pure (some (← optionalTest chainEnd (if shape == .method then 2 else 1)))
        else pure chainEnd
      if tagged then
        let n ← taggedTemplate g
        markColumn column
        emit (if shape == .method then .callMethod n else .call n)
      else
        next
        finishCall g form shape column
      accesses calls fuel .plain parens chainEnd column
    let t ← token
    match t with
    | .template _ _ =>
      if form != .plain then return chainEnd
      if chainEnd.isSome then fail "template literal cannot appear in an optional chain"
      call false true
    | .punct "?." =>
      if !calls then fail "new keyword cannot be used with an optional chain"
      next
      if (← isPunct "(") && parens then call true false
      else if ← isPunct "[" then
        let chainEnd ← indexAccess g chainEnd true
        accesses calls fuel form parens chainEnd column
      else
        let (chainEnd, column) ← fieldAccess chainEnd true
        accesses calls fuel form parens chainEnd column
    | .punct "(" => if parens then call false false else return chainEnd
    | .punct "." =>
      next
      let (chainEnd, column) ← fieldAccess chainEnd false
      accesses calls fuel form parens chainEnd column
    | .punct "[" =>
      let chainEnd ← indexAccess g chainEnd false
      accesses calls fuel form parens chainEnd column
    | _ => return chainEnd

/-- Parses a member expression; the flag admits calls. -/
def memberExpression (calls : Bool) : Parse Unit := do
  let column ← tokenColumn
  let (form, parens) ← primary g
  let chainEnd ← accesses g calls ((← get).size + 2) form (calls || parens) none column
  match chainEnd with
  | some l => placeLabel l
  | none => return

/-! ## Operators -/

/-- Parses an operand of `delete` and writes the deletion. -/
def deleteExpression : Parse Unit := do
  next
  g.unary .forbidden
  match ← lastInstr with
  | some (.getField name) =>
    unwrite
    emit (.push (.str (Units.ofString name)))
    emit .deleteElem
  | some .getElem =>
    unwrite
    emit .deleteElem
  | some (.getVar name) =>
    if ← isStrict then fail "cannot delete a direct reference in strict mode"
    unwrite
    emit (.deleteVar name)
  | some .getPrivate => fail "cannot delete a private class field"
  | some .getSuper => emit (.throwKind .referenceError "unsupported reference to 'super'")
  | _ =>
    emit .drop
    emit (.push (.bool true))

/-- Parses a unary expression without a power after it. -/
def unaryBase (power : PowerRule) : Parse PowerRule := do
  let simple (op : UnaryOp) : Parse PowerRule := do
    next
    g.unary .forbidden
    emit (.unary op)
    return .none
  match ← token with
  | .punct "+" => simple .plus
  | .punct "-" => simple .minus
  | .punct "!" => simple .not
  | .punct "~" => simple .bitNot
  | .keyword "void" =>
    next
    g.unary .forbidden
    emit .drop
    emit (.push .undefined)
    return .none
  | .keyword "typeof" =>
    next
    g.unary .forbidden
    match ← lastInstr with
    | some (.getVar name) =>
      unwrite
      emit (.getVarOrUndef name)
    | _ => pure ()
    emit (.unary .typeOf)
    return .none
  | .keyword "delete" =>
    deleteExpression g
    return .none
  | .keyword "await" =>
    let f ← fn
    if f.code.kind != .async && f.code.kind != .asyncGenerator then
      fail "unexpected 'await' keyword"
    if !f.inBody then fail "await in default expression"
    next
    g.unary .forbidden
    emit .await
    return .none
  | .punct "--" | .punct "++" =>
    let op := if ← isPunct "++" then UnaryOp.inc else .dec
    next
    g.unary .none
    let l ← takeLValue true "invalid increment/decrement operand"
    emit (.unary op)
    putKeepTop l
    return power
  | _ =>
    memberExpression g true
    if !(← get).newline && ((← isPunct "++") || (← isPunct "--")) then
      let op := if ← isPunct "++" then UnaryOp.inc else .dec
      let l ← takeLValue true "invalid increment/decrement operand"
      emit (.unary .numeric)
      emit .dup
      emit (.unary op)
      putKeepSecond l
      next
    return power

/-- Parses a unary expression. -/
def unaryExpression (power : PowerRule) : Parse Unit := do
  let power ← unaryBase g power
  if power != .none && (← isPunct "**") then
    if power == .forbidden then
      fail "unparenthesized unary expression can't appear on the left-hand side of '**'"
    next
    g.unary .allowed
    emit (.binary .pow)

/-- The binary operators of each level, the strongest first. -/
def operatorAt (level : Nat) (inOk : Bool) (t : Token) : Option BinaryOp :=
  let p := match t with
    | .punct p => p
    | .keyword k => k
    | _ => ""
  match level with
  | 1 => match p with
    | "*" => some .mul
    | "/" => some .div
    | "%" => some .mod
    | _ => none
  | 2 => match p with
    | "+" => some .add
    | "-" => some .sub
    | _ => none
  | 3 => match p with
    | "<<" => some .shl
    | ">>" => some .sar
    | ">>>" => some .shr
    | _ => none
  | 4 => match p with
    | "<" => some .lt
    | ">" => some .gt
    | "<=" => some .le
    | ">=" => some .ge
    | "instanceof" => some .instanceOf
    | "in" => if inOk then some .isIn else none
    | _ => none
  | 5 => match p with
    | "==" => some .eq
    | "!=" => some .ne
    | "===" => some .strictEq
    | "!==" => some .strictNe
    | _ => none
  | 6 => if p == "&" then some .bitAnd else none
  | 7 => if p == "^" then some .bitXor else none
  | 8 => if p == "|" then some .bitOr else none
  | _ => none

/-- One more operand, if an operator of a level stands here. -/
def binaryRound (inOk : Bool) (level : Nat) (operand : Parse Unit) : Parse Bool := do
  match operatorAt level inOk (← token) with
  | none => return false
  | some op =>
    next
    operand
    emit (.binary op)
    return true

/-- Parses binary operators up to a level. -/
def binaryExpression (inOk : Bool) : Nat → Parse Unit
  | 0 => unaryExpression g .allowed
  | level + 1 => do
    let rest : Parse Unit :=
      repeatStep (binaryRound inOk (level + 1) (binaryExpression inOk level))
    match ← token with
    | .privateName name =>
      let (t, _) ← Lexer.peek
      let isIn := match t with
        | .keyword "in" => true
        | _ => false
      if inOk && level + 1 == 4 && isIn then
        next
        next
        binaryExpression inOk level
        emit (.getVar ("#" ++ name))
        emit .hasPrivate
      else
        binaryExpression inOk level
        rest
    | _ =>
      binaryExpression inOk level
      rest

/-- Parses operands joined by `&&`. -/
def andExpression (inOk : Bool) : Parse Unit := do
  binaryExpression g inOk 8
  if ← isPunct "&&" then
    let l ← newLabel
    repeatStep do
      next
      emit .dup
      emit (.jumpFalse l)
      emit .drop
      binaryExpression g inOk 8
      if ← isPunct "&&" then return true
      if ← isPunct "??" then fail "cannot mix ?? with && or ||"
      return false
    placeLabel l

/-- Parses operands joined by `||`. -/
def orExpression (inOk : Bool) : Parse Unit := do
  andExpression g inOk
  if ← isPunct "||" then
    let l ← newLabel
    repeatStep do
      next
      emit .dup
      emit (.jumpTrue l)
      emit .drop
      andExpression g inOk
      if ← isPunct "||" then return true
      if ← isPunct "??" then fail "cannot mix ?? with && or ||"
      return false
    placeLabel l

/-- Parses operands joined by `??`. -/
def coalesceExpression (inOk : Bool) : Parse Unit := do
  orExpression g inOk
  if ← isPunct "??" then
    let l ← newLabel
    repeatStep do
      next
      emit .dup
      emit .isNullish
      emit (.jumpFalse l)
      emit .drop
      binaryExpression g inOk 8
      isPunct "??"
    placeLabel l

/-- Parses a conditional expression. -/
def conditional (inOk : Bool) : Parse Unit := do
  coalesceExpression g inOk
  if ← isPunct "?" then
    next
    let otherwise ← newLabel
    let done ← newLabel
    emit (.jumpFalse otherwise)
    g.assign true
    expect ":"
    emit (.jump done)
    placeLabel otherwise
    g.assign inOk
    placeLabel done

/-- The operator of a compound assignment. -/
def compoundOperator : String → Option BinaryOp
  | "*=" => some .mul
  | "/=" => some .div
  | "%=" => some .mod
  | "+=" => some .add
  | "-=" => some .sub
  | "<<=" => some .shl
  | ">>=" => some .sar
  | ">>>=" => some .shr
  | "&=" => some .bitAnd
  | "^=" => some .bitXor
  | "|=" => some .bitOr
  | "**=" => some .pow
  | _ => none

/-- Parses `yield` and what follows. -/
def yieldExpression (emitReturn : Parse Unit) (inOk : Bool) : Parse Unit := do
  let f ← fn
  if f.code.kind != .generator && f.code.kind != .asyncGenerator then
    fail "unexpected 'yield' keyword"
  if !f.inBody then fail "yield in default expression"
  next
  let ends := match ← token with
    | .punct p => [";", ")", "]", "\x7d", ",", ":"].contains p
    | .eof => true
    | _ => false
  let mut all := false
  if ends || (← get).newline then emit (.push .undefined)
  else
    if ← isPunct "*" then
      next
      all := true
    g.assign inOk
  emit (if all then .yieldAll else .yieldValue)
  let goOn ← newLabel
  emit (.jumpFalse goOn)
  emitReturn
  placeLabel goOn

/-- Parses the value of an assignment to what was just parsed, if one follows. -/
def assignmentTail (name0 : Option String) (inOk : Bool) : Parse Unit := do
  let error := "invalid assignment left-hand side"
  match ← token with
  | .punct p =>
    if p == "=" then
      next
      let l ← takeLValue false error
      g.assign inOk
      match l with
      | .var name => if name0 == some name then nameLast name
      | _ => pure ()
      putKeepTop l
    else if p == "&&=" || p == "||=" || p == "??=" then
      next
      let l ← takeLValue true error
      let short ← newLabel
      let done ← newLabel
      emit .dup
      if p == "??=" then emit .isNullish
      emit (if p == "||=" then .jumpTrue short else .jumpFalse short)
      emit .drop
      g.assign inOk
      match l with
      | .var name => if name0 == some name then nameLast name
      | _ => pure ()
      putKeepTop l
      emit (.jump done)
      placeLabel short
      for _ in [0:l.depth] do emit .nip
      placeLabel done
    else match compoundOperator p with
      | some op =>
        next
        let l ← takeLValue true error
        g.assign inOk
        emit (.binary op)
        putKeepTop l
      | none => return
  | _ => return

/-- Parses an arrow function, which starts at a place. -/
def arrowFunction (kind : FunctionKind) (start : Cursor) : Parse Unit := do
  let code ← g.function .arrow kind start
  emit (.closure code)
  emit (.setName "")

/-- Whether the present tokens begin the parameters of an arrow function. -/
def atArrow : Parse Bool := do
  if ← isPunct "(" then
    let (after, _) ← scanBrackets true
    return Token.isPunct after "=>"
  else if (← name?).isSome then peekPunct "=>" true
  else return false

/-- Parses an assignment expression. -/
def assignment (emitReturn : Parse Unit) (inOk : Bool) : Parse Unit := do
  let start := (← get).start
  if ← isKeyword "yield" then yieldExpression g emitReturn inOk
  else if (← isPunct "(") && (← atArrow) then arrowFunction g .normal start
  else
    let plain : Parse Unit := do
      let name0 := match ← token with
        | .ident name _ _ => some name
        | _ => none
      conditional g inOk
      assignmentTail g name0 inOk
    if ← isName "async" then
      let (t, newline) ← Lexer.peek
      let isFunction := match t with
        | .keyword "function" => true
        | _ => false
      if isFunction || newline then plain
      else
        let s ← get
        next
        if ← atArrow then arrowFunction g .async start
        else
          set s
          if ← atArrow then arrowFunction g .normal start else plain
    else
      match ← token with
      | .ident _ _ _ => if ← peekPunct "=>" true then arrowFunction g .normal start else plain
      | _ => plain

/-- Parses expressions with commas. -/
def commaExpression (inOk : Bool) : Parse Unit := do
  g.assign inOk
  repeatStep do
    if ← isPunct "," then
      next
      emit .drop
      g.assign inOk
      settle
      return true
    else return false

end ScriptHost.ProtoScript.Parse
