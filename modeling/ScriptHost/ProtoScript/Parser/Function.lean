import ScriptHost.ProtoScript.Parser.Statement

/-!
# Functions and classes

The productions for functions of all forms and for classes.  Each function has code of its own; the
function around it only instantiates that code.
-/

namespace ScriptHost.ProtoScript.Parse

open Text (Units)

variable (g : Grammar)

/-! ## Entering and leaving functions -/

/-- The text between two places. -/
def sourceBetween (start : Cursor) (stop : Nat) : Units :=
  Units.ofCodes ((start.upTo stop).map Char.toNat)

/-- Starts a function inside the present one. -/
def enterFunction (role : FunctionRole) (kind : FunctionKind) (name : String) : Parse Unit := do
  let column ← tokenColumn
  modify fun s =>
    let parent := s.fn
    let isArrow := role == .arrow
    let hasHome := role == .method || role == .getter || role == .setter
      || role == .classConstructor || role == .derivedConstructor || role == .staticBlock
    let code : Code := {
      name, kind, form := role.form, strict := parent.code.strict, file := s.file
      selfName := if role == .expression && !name.isEmpty then some name else none }
    let fn : FunctionState := {
      code
      mark := column
      scopes := [{ id := 0 }]
      newTargetAllowed := if isArrow then parent.newTargetAllowed else true
      superCallAllowed :=
        if isArrow then parent.superCallAllowed else role == .derivedConstructor
      superAllowed := if isArrow then parent.superAllowed else hasHome
      argumentsAllowed :=
        if isArrow then parent.argumentsAllowed else role != .staticBlock }
    { s with fn := fn, outer := parent :: s.outer }

/-- What the function's own block declares goes into its code. -/
def closeBody (f : FunctionState) : Code :=
  match f.scopes.getLast? with
  | some sc => { f.code with
      lexicals := (sc.vars.filterMap fun (name, constant, kind) =>
        if kind == .hidden then none else some ⟨name, constant⟩).reverse
      functions := f.code.functions ++ sc.functions.reverse }
  | none => f.code

/-- Ends the present function; the number of its code. -/
def leaveFunction (source : Units) : Parse Nat := do
  let s ← get
  let code := { closeBody s.fn with source }
  let id := s.base + s.codes.size
  let isArrow := code.form == .arrow
  match s.outer with
  | [] => return id
  | parent :: rest =>
    let parent := if isArrow && code.usesArguments then
        { parent with code := { parent.code with usesArguments := true } }
      else parent
    set { s with fn := parent, outer := rest, codes := s.codes.push code }
    return id

/-! ## Parameters and bodies -/

/-- Adds a parameter. -/
def addParameter (name : Option String) (counts : Bool) : Parse Unit := updateFn fun f =>
  { f with code := { f.code with
      params := f.code.params ++ [name]
      length := if counts then f.code.length + 1 else f.code.length } }

/-- The parameter list has a default, a pattern or a rest. -/
def notSimple : Parse Unit := updateFn fun f =>
  { f with code := { f.code with simpleParams := false } }

/-- One parameter, given whether one with a default came before; whether one has come now. -/
def parameter (expressions hadDefault : Bool) : Parse Bool := do
  let rest ← isPunct "..."
  if rest then
    notSimple
    next
  let index := (← fn).code.params.length
  let isPattern := (← isPunct "[") || (← isPunct "\x7b")
  let mut hasDefault := hadDefault
  if isPattern then
    notSimple
    addParameter none false
    emit (if rest then .restArguments index else .argument index)
    let initialized ← g.pattern { decl := some .var, isParameter := true, hasValue := true }
    emit .drop
    if initialized then hasDefault := true
    if !hasDefault && !rest then updateFn fun f =>
      { f with code := { f.code with length := f.code.length + 1 } }
  else
    match ← token with
    | .ident name _ reserved =>
      if reserved then failReserved
      if expressions then checkParameter name
      next
      if rest then
        hasDefault := true
        addParameter none false
        addFunctionVar name
        emit (.restArguments index)
        emit (.putVar name)
      else if ← isPunct "=" then
        notSimple
        hasDefault := true
        addParameter (some name) false
        next
        let has ← newLabel
        emit (.argument index)
        emit .dup
        emit .isUndefined
        emit (.jumpFalse has)
        emit .drop
        g.assign true
        nameLast name
        placeLabel has
        emit (.putVar name)
      else addParameter (some name) (!hasDefault)
    | _ => fail "missing formal parameter"
  if rest && !(← isPunct ")") then fail "expecting ')'"
  return hasDefault

/-- The parameters up to the closing parenthesis. -/
def parameters (expressions : Bool) : Nat → Bool → Parse Unit
  | 0, _ => return
  | fuel + 1, hadDefault => do
    if ← isPunct ")" then return
    let hasDefault ← parameter g expressions hadDefault
    if ← isPunct ")" then return
    expect ","
    parameters expressions fuel hasDefault

/-- The strings at the start of a body may make it strict.  Nothing is passed. -/
def directives : Parse Unit := do
  let s ← get
  let rec go : Nat → Bool → Parse Bool
    | 0, strict => return strict
    | fuel + 1, strict => do
      match ← token with
      | .string _ =>
        let text ← tokenText
        match ← (try some <$> next catch _ => pure none) with
        | none => return strict
        | some _ =>
          let ends ← if ← isPunct ";" then do
              let _ ← (try some <$> next catch _ => pure none)
              pure true
            else if (← isPunct "\x7d") || (← isEof) then pure true
            else match ← token with
              | .punct p => pure ((p == "--" || p == "++") && (← get).newline)
              | .keyword k =>
                pure (!(k == "in" || k == "instanceof") && (← get).newline)
              | _ => pure (← get).newline
          if !ends then return strict
          let body := (text.drop 1).dropEnd 1
          go fuel (strict || body.toString == "use strict")
      | _ => return strict
  let strict ← go (s.size + 2) false
  set s
  if strict then updateFn fun f =>
    { f with useStrict := true, code := { f.code with strict := true } }

/-- Checks the names of a function and its parameters. -/
def checkNames (role : FunctionRole) (name : String) : Parse Unit := do
  let f ← fn
  let params := f.code.params.filterMap id
  if f.code.strict then
    if !f.code.simpleParams && f.useStrict then
      fail "\"use strict\" not allowed in function with default or destructuring parameter"
    if name == "eval" || name == "arguments" then fail "invalid function name in strict code"
    if params.contains "eval" || params.contains "arguments" then
      fail "invalid argument name in strict code"
  if f.code.strict || !f.code.simpleParams || role == .arrow || role == .method then
    if params.eraseDups.length != params.length then
      fail "duplicate argument names not allowed in this context"

/-- The body of a function between braces, and the end of the function. -/
def functionBody (role : FunctionRole) (name : String) (start : Cursor) : Parse Nat := do
  expect "\x7b"
  directives
  checkNames role name
  repeatStep do
    if ← isPunct "\x7d" then return false
    g.statement { functions := true, labelledFunctions := true, others := true }
    return true
  let stop := (← get).here.pos
  -- the closing brace is passed only by the function around, whose words may be reserved otherwise
  if ← isLive then emitReturn false
  let id ← leaveFunction (sourceBetween start stop)
  next
  return id

/-- The name of a function declaration or expression, and its kind. -/
def functionHead (role : FunctionRole) (kind : FunctionKind) : Parse (String × FunctionKind) := do
  let mut kind := kind
  if ← isName "async" then
    next
    kind := .async
  next
  if ← isPunct "*" then
    next
    kind := if kind == .async then .asyncGenerator else .generator
  let isExpression := role == .expression
  match ← token with
  | .ident name _ reserved =>
    if reserved then failReserved
    let generator := kind == .generator || kind == .asyncGenerator
    let async := kind == .async || kind == .asyncGenerator
    if isExpression && ((name == "yield" && generator) || (name == "await" && async)) then
      failReserved
    next
    return (name, kind)
  | .keyword k =>
    let strict ← isStrict
    if isExpression && ((k == "yield" && !strict) || k == "await") then
      next
      return (k, kind)
    else if isExpression then return ("", kind)
    else fail "function name expected"
  | _ => if isExpression then return ("", kind) else fail "function name expected"

/-- The parameters and the body of a function. -/
def functionRest (role : FunctionRole) (kind : FunctionKind) (name : String) (start : Cursor) :
    Parse Nat := do
  enterFunction role kind name
  if role == .classConstructor then emit .initFields
  let generator := kind == .generator || kind == .asyncGenerator
  if role == .staticBlock then
    updateFn fun f => { f with inBody := true }
    functionBody g role name start
  else
    if role == .arrow && (← name?).isSome then addParameter (← name?) true
    else if role == .arrow && !(← isPunct "(") then failReserved
    else
      let expressions ← if ← isPunct "(" then pure (← scanBrackets false).2.assignment
        else pure false
      expect "("
      parameters g expressions ((← get).size + 2) false
      let n := (← fn).code.params.length
      if (role == .getter && n != 0) || (role == .setter && n != 1) then
        fail "invalid number of arguments for getter or setter"
    next
    if generator then emit .initialYield
    updateFn fun f => { f with inBody := true, lastOp := none }
    if role == .arrow && (← isPunct "=>") then next
    if role == .arrow && !(← isPunct "\x7b") then
      checkNames role name
      g.assign true
      emit .returnValue
      leaveFunction (sourceBetween start (← get).lastEnd)
    else functionBody g role name start

/-- Parses a function that starts at a place; the number of its code. -/
def functionExpression (role : FunctionRole) (kind : FunctionKind) (start : Cursor) : Parse Nat := do
  match role with
  | .declaration | .blockDeclaration | .expression =>
    let (name, kind) ← functionHead role kind
    let outer ← fn
    let atBody0 ← atBody
    let blockLevel := role == .blockDeclaration && !(atBody0 && outer.isEval && outer.evalGlobal)
    let createVar := blockLevel && !outer.code.strict && kind == .normal
      && (findLexical outer name false).isNone && !outer.code.params.contains (some name)
    if blockLevel then
      defineVar (if kind == .normal then .blockFunction else .newBlockFunction) name
    let id ← functionRest g role kind name start
    if role == .expression then return id
    if blockLevel then
      updateScope fun sc => { sc with functions := (name, id) :: sc.functions }
      if createVar then
        updateFn fun f =>
          if f.code.vars.contains name then f
          else { f with code := { f.code with vars := f.code.vars ++ [name] } }
        emit (.getVar name)
        emit (.putFunctionVar name)
    else
      if !(outer.isEval && outer.evalGlobal) then defineVar .var name
      updateFn fun f => { f with code := { f.code with
        functions := f.code.functions ++ [(name, id)] } }
    return id
  | _ => functionRest g role kind "" start

/-! ## Classes -/

/-- Functions that run the field definitions of a class. -/
structure FieldFunctions where
  own : Option FunctionState := none
  shared : Option FunctionState := none

/-- A new function for field definitions. -/
def fieldFunction : Parse FunctionState := do
  let s ← get
  return {
    code := { form := .fields, strict := true, file := s.file }
    mark := ← tokenColumn
    scopes := [{ id := 0 }]
    newTargetAllowed := true
    superAllowed := true
    argumentsAllowed := false
    inBody := true }

/-- Parses as a part of another function. -/
def inFunction (f : FunctionState) (act : Parse Unit) : Parse FunctionState := do
  modify fun s => { s with fn := f, outer := s.fn :: s.outer }
  act
  let f ← fn
  modify fun s => match s.outer with
    | [] => s
    | parent :: rest => { s with fn := parent, outer := rest }
  return f

/-- Adds to the definitions of fields. -/
def addField (fields : FieldFunctions) (static0 : Bool) (act : Parse Unit) :
    Parse FieldFunctions := do
  let present := if static0 then fields.shared else fields.own
  let f ← match present with
    | some f => pure f
    | none => fieldFunction
  let f ← inFunction f act
  return if static0 then { fields with shared := some f } else { fields with own := some f }

/-- Ends a function of field definitions; the number of its code. -/
def endFields (f : FunctionState) : Parse Nat := do
  let s ← get
  let code := { closeBody f with
    instrs := (f.code.instrs.push (.push .undefined)).push .returnValue
    positions := (f.code.positions.push 0).push 0 }
  set { s with codes := s.codes.push code }
  return s.base + s.codes.size

/-- What is known of a class while its members are parsed. -/
structure ClassState where
  hasParent : Bool
  constructor : Option Nat := none
  fields : FieldFunctions := {}
  computed : Nat := 0

/-- Declares a private name. -/
def definePrivateName (name : String) : Parse Unit := do
  let sc := (← fn).scopes.head?
  let declared := match sc with
    | some sc => sc.vars.any (·.1 == "#" ++ name)
    | none => false
  if declared then fail "private class field is already defined"
  addScopeVar ("#" ++ name) true .lexical
  emit (.newPrivateName name)
  emit (.initVar ("#" ++ name))

/-- A field of a class, after its name. -/
def classField (c : ClassState) (p : PropertyName) (static0 : Bool) : Parse ClassState := do
  if !p.isPrivate && (p.name == some "constructor" || p.name == some "prototype") then
    fail "invalid field name"
  let keyVar := "computed " ++ toString c.computed
  let computed := p.name.isNone
  if p.isPrivate then definePrivateName (p.name.getD "")
  if computed then
    addScopeVar keyVar true .lexical
    emit .toKey
    emit (.initVar keyVar)
  let fields ← addField c.fields static0 do
    emit .this
    if computed then emit (.getVar keyVar)
    if p.isPrivate then emit (.getVar ("#" ++ p.name.getD ""))
    if ← isPunct "=" then
      next
      g.assign true
    else emit (.push .undefined)
    if p.isPrivate then
      nameLast ("#" ++ p.name.getD "")
      emit .definePrivate
    else match p.name with
      | some name =>
        nameLast name
        emit (.defineField name)
      | none =>
        nameLastByKey
        emit .defineElem
    emit .drop
  expectSemi
  return { c with fields, computed := if computed then c.computed + 1 else c.computed }

/-- A private method: it is kept in a variable of the class and added to every instance. -/
def privateMethod (c : ClassState) (p : PropertyName) (code : Nat) (static0 : Bool) :
    Parse ClassState := do
  let name := p.name.getD ""
  let role := p.form.role
  let suffix := match role with
    | .method => " method"
    | .getter => " getter"
    | .setter => " setter"
  let known := ((← fn).scopes.head?.map fun sc => sc.vars.any (·.1 == "#" ++ name)).getD false
  if role == .method || !known then definePrivateName name
  addScopeVar ("#" ++ name ++ suffix) true .lexical
  emit (.closure code)
  emit .setHome
  emit (.setName ("#" ++ name))
  emit (.initVar ("#" ++ name ++ suffix))
  let fields ← addField c.fields static0 do
    emit .this
    emit (.getVar ("#" ++ name))
    emit (.getVar ("#" ++ name ++ suffix))
    emit (.definePrivateMethod role)
    emit .drop
  return { c with fields }

/-- A method of a class, after its name. -/
def classMethod (c : ClassState) (p : PropertyName) (static0 : Bool) (start : Cursor) :
    Parse ClassState := do
  let isConstructor := p.name == some "constructor" && !static0 && !p.isPrivate
    && p.form == .plain
  if isConstructor then
    if c.constructor.isSome then fail "property constructor appears more than once"
    let role := if c.hasParent then FunctionRole.derivedConstructor else .classConstructor
    let code ← g.function role .normal start
    return { c with constructor := some code }
  else
    let code ← g.function p.form.functionRole p.form.kind start
    if p.isPrivate then privateMethod c p code static0
    else
      defineMethod p code false
      return c

/-- A member of a class. -/
def classMember (c : ClassState) : Parse ClassState := do
  if ← isPunct ";" then
    next
    return c
  let mut static0 := false
  let mut named : Option PropertyName := none
  if (← isKeyword "static") || (← isName "static") then
    let (t, _) ← Lexer.peek
    let plain := match t with
      | .punct p => [";", "\x7d", "(", "="].contains p
      | _ => false
    static0 := !plain
  if static0 then
    let start := (← get).start
    next
    if ← isPunct "\x7b" then
      let code ← g.function .staticBlock .normal start
      let fields ← addField c.fields true do
        emit .this
        emit (.closure code)
        emit .setHome
        emit (.callMethod 0)
        emit .drop
      return { c with fields }
    if (← isPunct ";") || (← isPunct "=") then
      static0 := false
      named := some ⟨some "static", .plain, false⟩
  if static0 then emit .swap
  let start := (← get).start
  let p ← match named with
    | some p => pure p
    | none => propertyName g true false true
  if !p.isPrivate && ((p.name == some "constructor" && !static0 && p.form != .plain)
      || (p.name == some "prototype" && static0)) then fail "invalid method name"
  if p.isPrivate && p.name == some "constructor" then fail "invalid method name"
  let c ← if p.form == .plain && !(← isPunct "(") then classField g c p static0
    else classMethod g c p static0 start
  if static0 then emit .swap
  return c

/-- The members of a class up to its closing brace. -/
def classMembers : Nat → ClassState → Parse ClassState
  | 0, c => return c
  | fuel + 1, c => do
    if ← isPunct "\x7d" then return c
    classMembers fuel (← classMember g c)

/-- Writes the constructor of a class that declares none; the number of its code. -/
def defaultConstructor (hasParent : Bool) : Parse Nat := do
  let role := if hasParent then FunctionRole.derivedConstructor else .classConstructor
  enterFunction role .normal ""
  if hasParent then
    emit .superConstructor
    emit .newTarget
    emit (.restArguments 0)
    emit .constructApply
    emit .bindThis
  emit .initFields
  emit (.push .undefined)
  emit .returnValue
  leaveFunction #[]

/-- Gives a code a name and a source text. -/
def updateCode (id : Nat) (f : Code → Code) : Parse Unit := modify fun s =>
  { s with codes := s.codes.modify (id - s.base) f }

/-- Parses a class. -/
def classDefinition (isExpression : Bool) : Parse Unit := do
  let strict ← isStrict
  let start := (← get).start
  updateFn fun f => { f with code := { f.code with strict := true } }
  next
  let name ← match ← token with
    | .ident name _ reserved =>
      if reserved then failReserved
      next
      pure (some name)
    | _ => do
      if !isExpression then fail "class statement requires a name"
      pure none
  pushScope
  let hasParent ← isKeyword "extends"
  if hasParent then
    next
    memberExpression g true
  else emit (.push .undefined)
  match name with
  | some name => defineVar .constVar name
  | none => pure ()
  expect "\x7b"
  pushScope
  emit .nop
  let closureAt := (← fn).code.instrs.size - 1
  emit (.defineClass (name.getD "") hasParent)
  let c ← classMembers g ((← get).size + 2) { hasParent }
  let constructor ← match c.constructor with
    | some id => pure id
    | none => defaultConstructor hasParent
  let source := sourceBetween start (← get).here.pos
  updateCode constructor fun code => { code with name := name.getD "", source }
  patch closureAt (.closure constructor)
  next
  match c.fields.own with
  | some f =>
    emit (.closure (← endFields f))
    emit .setFields
  | none => pure ()
  emit .drop
  match name with
  | some name =>
    emit .dup
    emit (.initVar name)
  | none => pure ()
  match c.fields.shared with
  | some f =>
    emit .dup
    emit (.closure (← endFields f))
    emit .setHome
    emit (.callMethod 0)
    emit .drop
  | none => pure ()
  popScope
  popScope
  updateFn fun f => { f with code := { f.code with strict := strict } }
  match name, isExpression with
  | some name, false =>
    defineVar .letVar name
    emit (.initVar name)
  | none, _ => emit (.setName "")
  | some _, true => pure ()

end ScriptHost.ProtoScript.Parse
