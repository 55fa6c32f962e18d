import ScriptHost.ProtoScript.Parser.Expression

/-!
# Patterns and declarations of variables

A pattern takes a value apart.  The value is on the stack, or is that of the initializer that follows
the pattern, whose code then comes last.
-/

namespace ScriptHost.ProtoScript.Parse

open Text (Units)

variable (g : Grammar)

/-- Fails if a parameter of the given name is there already. -/
def checkParameter (name : String) : Parse Unit := do
  let f ← fn
  if f.code.params.contains (some name) || f.code.vars.contains name then
    fail "duplicate argument names not allowed in this context"

/-- The name that a declaration binds in a pattern. -/
def patternName (isParameter : Bool) : Parse String := do
  let strict ← isStrict
  match ← name? with
  | some name =>
    if strict && (name == "eval" || name == "arguments") then fail "invalid destructuring target"
    if isParameter then checkParameter name
    next
    return name
  | none => fail "invalid destructuring target"

/-- Whether a declaration gives its names their first value. -/
def DeclKind.isLexical : DeclKind → Bool
  | .letVar | .constVar | .catchVar => true
  | _ => false

/-- Parses a default value for the value on the stack, and stores it. -/
def storeWithDefault (decl : Option DeclKind) (l : LValue) (mayDefault : Bool) : Parse Unit := do
  if mayDefault && (← isPunct "=") then
    emit .dup
    emit .isUndefined
    let has ← newLabel
    emit (.jumpFalse has)
    next
    emit .drop
    g.assign true
    match l with
    | .var name => nameLast name
    | _ => pure ()
    placeLabel has
  putLValue l ((decl.map DeclKind.isLexical).getD false)

/-- What a part of a pattern is stored in: a declared name or a reference. -/
def patternTarget (mode : PatternMode) (error : String) : Parse LValue := do
  match mode.decl with
  | some _ => return .var (← patternName mode.isParameter)
  | none =>
    memberExpression g true
    takeLValue false error

/-- Declares the name of a part, if the pattern declares names. -/
def declareTarget (mode : PatternMode) (l : LValue) : Parse Unit :=
  match mode.decl, l with
  | some kind, .var name => defineVar kind name
  | _, _ => return

/-- Whether the present token starts an inner pattern; then also whether it collects a rest. -/
def innerPattern? (close : String) : Parse (Option (Bool × Bool)) := do
  if (← isPunct "[") || (← isPunct "\x7b") then
    let (after, bits) ← scanBrackets false
    if Token.isPunct after "," || Token.isPunct after "=" || Token.isPunct after close then
      return some (bits.ellipsis, Token.isPunct after "=")
  return none

/-- Remembers a property that the rest of a pattern leaves out: `excluded source → same`. -/
def exclude (name : String) : Parse Unit := do
  emit .swap
  emit (.push .null)
  emit (.defineField name)
  emit .swap

/-- Remembers a computed property that the rest leaves out: `excluded source k → same`. -/
def excludeKey : Parse Unit := do
  emit .toKeyUnder
  emit .perm3
  emit (.push .null)
  emit .defineElem
  emit .perm3

/-- One property of an object pattern. -/
def patternProperty (mode : PatternMode) (rest : Bool) : Parse Unit := do
  if ← isPunct "..." then
    next
    let l ← patternTarget g mode "invalid destructuring target"
    if !(← isPunct "\x7d") then fail "assignment rest property must be last"
    emit (.restProperties l.depth)
    declareTarget mode l
    storeWithDefault g mode.decl l false
    return
  let p ← propertyName g false true false
  let inner : PatternMode := { mode with hasValue := true, mayInitialize := true }
  match p.form, p.name with
  | .shorthand, some name =>
    if mode.isParameter then checkParameter name
    if (← isStrict) && (name == "eval" || name == "arguments") then
      fail "invalid destructuring target"
    if rest then exclude name
    match mode.decl with
    | some kind =>
      emit (.getFieldKeep name)
      defineVar kind name
      storeWithDefault g mode.decl (.var name) true
    | none =>
      emit (.checkVar name)
      emit (.getFieldKeep name)
      storeWithDefault g none (.var name) true
  | _, some name =>
    next
    match ← innerPattern? "\x7d" with
    | some (ellipsis, _) =>
      if rest then exclude name
      emit (.getFieldKeep name)
      let _ ← g.pattern { inner with hasEllipsis := some ellipsis }
    | none =>
      if rest then exclude name
      emit .dup
      let l ← patternTarget g mode "invalid destructuring target"
      raise l
      emit (.getField name)
      declareTarget mode l
      storeWithDefault g mode.decl l true
  | _, none =>
    next
    let target ← innerPattern? "\x7d"
    if rest then excludeKey
    emit .getElemMethod
    match target with
    | some (ellipsis, _) =>
      let _ ← g.pattern { inner with hasEllipsis := some ellipsis }
    | none =>
      let l ← patternTarget g mode "invalid destructuring target"
      raise l
      declareTarget mode l
      storeWithDefault g mode.decl l true

/-- Parses an object pattern for the value on the stack. -/
def objectPattern (mode : PatternMode) (rest : Bool) : Parse Unit := do
  next
  emit .requireObject
  if rest then
    emit .newObject
    emit .swap
  repeatStep do
    if ← isPunct "\x7d" then return false
    patternProperty g mode rest
    if ← isPunct "\x7d" then return false
    expect ","
    return true
  emit .drop
  if rest then emit .drop
  next

/-- One element of an array pattern; tells whether it is the rest. -/
def patternElement (mode : PatternMode) : Parse Bool := do
  let rest ← isPunct "..."
  if rest then
    next
    if (← isPunct ",") || (← isPunct "]") then fail "missing binding pattern..."
  if ← isPunct "," then
    emit (.patternNext 0)
    emit .drop
    return false
  match ← innerPattern? "]" with
  | some (ellipsis, assigned) =>
    if rest && assigned then fail "rest element cannot have a default value"
    emit (if rest then .patternRest 0 else .patternNext 0)
    let _ ← g.pattern
      { mode with hasValue := true, hasEllipsis := some ellipsis, mayInitialize := true }
  | none =>
    let l ← patternTarget g mode "invalid destructuring target"
    declareTarget mode l
    emit (if rest then .patternRest l.depth else .patternNext l.depth)
    storeWithDefault g mode.decl l (!rest)
  return rest

/-- Parses an array pattern for the value on the stack. -/
def arrayPattern (mode : PatternMode) : Parse Unit := do
  markToken
  next
  pushBreak { hasIterator := true }
  emit (.iterate false)
  repeatStep do
    if ← isPunct "]" then return false
    let rest ← patternElement g mode
    if ← isPunct "]" then return false
    if rest then fail "rest element must be the last one"
    expect ","
    return true
  emit .iterateClose
  popBreak
  next

/-- Parses a pattern. -/
def patternExpression (mode : PatternMode) : Parse Bool := do
  let rest ← match mode.hasEllipsis with
    | some b => pure b
    | none => do pure (← scanBrackets false).2.ellipsis
  let parse ← newLabel
  let assign ← newLabel
  let done ← newLabel
  let start := (← fn).code.instrs.size
  let column ← tokenColumn
  if mode.hasValue then
    emit .dup
    emit .isUndefined
    emit (.jumpTrue parse)
    placeLabel assign
  else
    emit (.jump parse)
    placeLabel assign
    emit .dup
  let body := (← fn).code.instrs.size
  markColumn column
  if ← isPunct "\x7b" then objectPattern g mode rest
  else if ← isPunct "[" then arrayPattern g mode
  else fail "invalid assignment syntax"
  if (← isPunct "=") && mode.mayInitialize then
    emit (.jump done)
    next
    placeLabel parse
    if mode.hasValue then emit .drop
    g.assign true
    emit (.jump assign)
    placeLabel done
    return true
  else
    if !mode.hasValue then fail "too complicated destructuring expression"
    for i in [start:body] do patch i .nop
    return false

/-- Parses one declaration; tells whether another one follows. -/
def declaration (inOk : Bool) (kind : DeclKind) : Parse Bool := do
  match ← token with
  | .ident name _ reserved =>
    if reserved then failReserved
    if name == "let" && kind != .var then fail "'let' is not a valid lexical identifier"
    markToken
    next
    defineVar kind name
    if ← isPunct "=" then
      next
      if kind == .var then emit (.checkVar name)
      g.assign inOk
      nameLast name
      emit (if kind == .var then .putVar name else .initVar name)
    else
      if kind == .constVar then fail "missing initializer for const variable"
      if kind == .letVar then
        emit (.push .undefined)
        emit (.initVar name)
  | _ =>
    let bracket := (← isPunct "[") || (← isPunct "\x7b")
    if !bracket then fail "variable name expected"
    let (after, bits) ← scanBrackets false
    if !Token.isPunct after "=" then fail "variable name expected"
    emit (.push .undefined)
    let _ ← g.pattern { decl := some kind, hasValue := true, hasEllipsis := some bits.ellipsis }
  if ← isPunct "," then
    next
    return true
  else return false

/-- Parses the declarations of one statement. -/
def declarations (inOk : Bool) (kind : DeclKind) : Parse Unit :=
  repeatStep (declaration g inOk kind)

end ScriptHost.ProtoScript.Parse
