import ScriptHost.ProtoScript.Parser.Lexer

/-!
# Parts shared by all productions

* `Grammar` — the productions that refer to one another.  Each one is written as a function of the
  others; `ScriptHost.ProtoScript.Parser.Program` ties them together up to a depth of nesting.
* `scanBrackets` — looks ahead beyond a bracketed group without parsing it.
* `LValue` — what an assignment writes to, taken back from the code that would read it.
* `defineVar` — declarations, and which of them exclude one another.
-/

namespace ScriptHost.ProtoScript

/-- What a function is parsed as. -/
inductive FunctionRole where
  /-- A declaration in the block of a function or program. -/
  | declaration
  /-- A declaration in an inner block. -/
  | blockDeclaration
  | expression | arrow | method | getter | setter | classConstructor | derivedConstructor
  /-- A block of code in a class. -/
  | staticBlock
deriving DecidableEq

/-- The form of a function of the given role. -/
def FunctionRole.form : FunctionRole → FunctionForm
  | .arrow => .arrow
  | .method | .staticBlock => .method
  | .getter => .getter
  | .setter => .setter
  | .classConstructor => .classConstructor
  | .derivedConstructor => .derivedConstructor
  | _ => .plain

/-- How names are declared. -/
inductive DeclKind where
  | var | letVar | constVar | catchVar | blockFunction | newBlockFunction
deriving DecidableEq

/-- Whether a power may follow a unary expression. -/
inductive PowerRule where
  | none | allowed | forbidden
deriving DecidableEq

/-- Which declarations a statement may be. -/
structure DeclMask where
  functions : Bool := false
  labelledFunctions : Bool := false
  others : Bool := false

/-- All declarations. -/
def DeclMask.all : DeclMask := ⟨true, true, true⟩

/-- How a pattern is read. -/
structure PatternMode where
  /-- The kind of declaration; `none` for an assignment. -/
  decl : Option DeclKind
  isParameter : Bool := false
  /-- The value is on the stack. -/
  hasValue : Bool
  /-- Whether the pattern collects a rest; `none` if that is not known yet. -/
  hasEllipsis : Option Bool := none
  mayInitialize : Bool := true

/-- The productions that refer to one another. -/
structure Grammar where
  /-- An assignment expression; the flag admits the operator `in`. -/
  assign : Bool → Parse Unit
  /-- Expressions with commas. -/
  expression : Bool → Parse Unit
  unary : PowerRule → Parse Unit
  /-- A member expression; the flag admits calls. -/
  member : Bool → Parse Unit
  statement : DeclMask → Parse Unit
  /-- A function that starts at a place; the number of its code. -/
  function : FunctionRole → FunctionKind → Cursor → Parse Nat
  /-- A class; the flag tells an expression from a declaration. -/
  classBody : Bool → Parse Unit
  /-- A pattern; tells whether it has an initializer. -/
  pattern : PatternMode → Parse Bool

namespace Parse

/-- Repeats a step until it answers `false`. -/
def repeatWith (step : Parse Bool) : Nat → Parse Unit
  | 0 => return
  | n + 1 => do if ← step then repeatWith step n

/-- Repeats a step that passes a token each time, until it answers `false`. -/
def repeatStep (step : Parse Bool) : Parse Unit := do
  repeatWith step ((← get).size + 2)

def token : Parse Token := return (← get).token

def next : Parse Unit := Lexer.next

/-- Whether the present token is the given punctuation. -/
def isPunct (p : String) : Parse Bool := do
  match ← token with
  | .punct t => return t == p
  | _ => return false

/-- Whether the present token is the given reserved word. -/
def isKeyword (k : String) : Parse Bool := do
  match ← token with
  | .keyword t => return t == k
  | _ => return false

/-- Whether the present token is the given name, written without an escape. -/
def isName (k : String) : Parse Bool := do
  match ← token with
  | .ident t escaped _ => return t == k && !escaped
  | _ => return false

/-- The present token if it is a name or a reserved word. -/
def anyName? : Parse (Option String) := do
  match ← token with
  | .ident t _ _ => return some t
  | .keyword t => return some t
  | _ => return none

/-- The present token if it is a name that is not reserved. -/
def name? : Parse (Option String) := do
  match ← token with
  | .ident t _ reserved => return if reserved then none else some t
  | _ => return none

def isEof : Parse Bool := do
  match ← token with
  | .eof => return true
  | _ => return false

/-- Passes the given punctuation. -/
def expect (p : String) : Parse Unit := do
  if ← isPunct p then next else fail ("expecting '" ++ p ++ "'")

/-- Passes a semicolon, or the place where one is implied. -/
def expectSemi : Parse Unit := do
  if ← isPunct ";" then next
  else if (← isEof) || (← isPunct "\x7d") || (← get).newline then return
  else fail "expecting ';'"

/-- Fails because a name is reserved. -/
def failReserved {α : Type} : Parse α := do
  fail ("'" ++ ((← anyName?).getD "") ++ "' is a reserved identifier")

/-- The text of the present token. -/
def tokenText : Parse String := do
  let s ← get
  return String.ofList (s.start.upTo s.here.pos)

/-! ## Looking ahead -/

/-- What stands in a bracketed group. -/
structure BracketBits where
  semicolon : Bool := false
  ellipsis : Bool := false
  assignment : Bool := false

/-- Whether a slash after a token starts a regular expression. -/
def slashStartsRegexp : Token → Bool
  | .number _ | .bigint _ | .string _ | .regexp _ _ => false
  | .ident n _ _ => n == "of" || n == "yield"
  | .keyword k => !(["null", "false", "true", "this"].contains k)
  | .punct p => !([")", "]", "\x7d", "--", "++"].contains p)
  | _ => true

/-- The closing bracket of an opening one. -/
def closerOf (p : String) : String :=
  if p == "(" then ")" else if p == "[" then "]" else "\x7d"

/-- Goes on from the present token with open brackets and the last token passed, until the brackets
are closed; the token that follows. -/
def scanFrom : Nat → List String → Token → BracketBits → Parse (Option Token × BracketBits)
  | 0, _, _, bits => return (none, bits)
  | fuel + 1, open0, last, bits => do
    let t ← token
    let step (open0 : List String) (bits : BracketBits) : Parse (Option Token × BracketBits) := do
      let last ← token
      match ← (try some <$> next catch _ => pure none) with
      | none => return (none, bits)
      | some _ =>
        if open0.isEmpty then return (some (← token), bits)
        else scanFrom fuel open0 last bits
    match t with
    | .eof => return (none, bits)
    | .template _ true => step open0 bits
    | .template _ false => step ("template" :: open0) bits
    | .punct p =>
      if p == "(" || p == "[" || p == "\x7b" then step (closerOf p :: open0) bits
      else if p == ")" || p == "]" || p == "\x7d" then
        match open0 with
        | [] => return (none, bits)
        | c :: rest =>
          if c == p then step rest bits
          else if c == "template" && p == "\x7d" then
            match ← (try some <$> Lexer.templatePart catch _ => pure none) with
            | none => return (none, bits)
            | some _ => match ← token with
              | .template _ true => step rest bits
              | _ => step open0 bits
          else return (none, bits)
      else if p == ";" then
        step open0 { bits with semicolon := bits.semicolon || open0.length == 1 }
      else if p == "..." then
        step open0 { bits with ellipsis := bits.ellipsis || open0.length == 1 }
      else if p == "=" then step open0 { bits with assignment := true }
      else if (p == "/" || p == "/=") && slashStartsRegexp last then
        match ← (try some <$> Lexer.regexp catch _ => pure none) with
        | none => return (none, bits)
        | some _ => step open0 bits
      else step open0 bits
    | _ => step open0 bits

/-- Looks beyond the bracketed group that starts at the present token: the token that follows, `none`
if the group does not end, and what stands in it.  Nothing is passed. -/
def scanBrackets (sameLine : Bool) : Parse (Option Token × BracketBits) := do
  let s ← get
  let (t, bits) ← scanFrom (s.size + 2) [] (.punct "(") {}
  let newline := (← get).newline
  set s
  return (if sameLine && newline then none else t, bits)

/-- Whether a token is the given punctuation. -/
def Token.isPunct (t : Option Token) (p : String) : Bool :=
  match t with
  | some (.punct q) => q == p
  | _ => false

/-- Whether the token after the present one is the given punctuation. -/
def peekPunct (p : String) (sameLine : Bool) : Parse Bool := do
  let (t, newline) ← Lexer.peek
  return !(sameLine && newline) && Token.isPunct (some t) p

/-! ## References -/

/-- What an assignment writes to. -/
inductive LValue where
  | var (name : String)
  | field (name : String)
  | elem
  | superElem
  | privateElem

/-- The number of operands of a reference. -/
def LValue.depth : LValue → Nat
  | .var _ => 0
  | .field _ => 1
  | .elem | .privateElem => 2
  | .superElem => 3

/-- Takes the code that reads a reference back, and writes code that prepares an assignment to it; with
`keep` the present value is read too.  The text is the error for code that reads no reference. -/
def takeLValue (keep : Bool) (error : String) : Parse LValue := do
  match ← lastInstr with
  | some (.getVar name) =>
    if (← isStrict) && (name == "eval" || name == "arguments") then
      fail "invalid lvalue in strict mode"
    unwrite
    emit (.checkVar name)
    if keep then emit (.getVar name)
    return .var name
  | some (.getField name) =>
    unwrite
    if keep then emit (.getFieldKeep name)
    return .field name
  | some .getElem =>
    unwrite
    if keep then
      emit .toKeyUnder
      emit .getElemKeep
    return .elem
  | some .getSuper =>
    unwrite
    if keep then
      emit .toKeyUnder
      emit .getSuperKeep
    return .superElem
  | some .getPrivate =>
    unwrite
    if keep then emit .getPrivateKeep
    return .privateElem
  | _ => fail error

/-- Writes the assignment itself. -/
def putLValue (l : LValue) (first : Bool := false) : Parse Unit :=
  match l with
  | .var name => emit (if first then .initVar name else .putVar name)
  | .field name => emit (.putField name)
  | .elem => emit .putElem
  | .superElem => emit .putSuper
  | .privateElem => emit .putPrivate

/-- Assigns the value on the stack and keeps it. -/
def putKeepTop (l : LValue) : Parse Unit := do
  match l.depth with
  | 0 => emit .dup
  | 1 => emit .insert2
  | 2 => emit .insert3
  | _ => emit .insert4
  putLValue l

/-- Assigns the value on the stack and keeps the one below it. -/
def putKeepSecond (l : LValue) : Parse Unit := do
  match l.depth with
  | 0 => pure ()
  | 1 => emit .perm3
  | 2 => emit .perm4
  | _ => emit .perm5
  putLValue l

/-- Brings what stands below the operands of a reference to the top. -/
def raise (l : LValue) : Parse Unit := do
  match l.depth with
  | 0 => pure ()
  | 1 => emit .swap
  | 2 => emit .rotLeft3
  | _ => emit .rotLeft4

/-- Gives a name to the function or class that was written last, if it has none. -/
def nameLast (name : String) : Parse Unit := do
  match ← lastInstr with
  | some (.setName "") =>
    unwrite
    emit (.setName name)
  | _ => return

/-- Lets the computed key below it name the function or class that was written last. -/
def nameLastByKey : Parse Unit := do
  match ← lastInstr with
  | some (.setName "") =>
    unwrite
    emit .setNameFromKey
  | _ => return

/-! ## Declarations -/

/-- The declaration of a name in the open scopes, from the innermost on, with the scope. -/
def findLexical (f : FunctionState) (name : String) (caught : Bool) :
    Option (ScopeState × VarKind) :=
  f.scopes.findSome? fun sc =>
    (sc.vars.find? fun (n, _, k) => n == name && k != .hidden && (caught || k != .caught)).map
      fun (_, _, k) => (sc, k)

/-- Adds a name to the innermost scope. -/
def addScopeVar (name : String) (constant : Bool) (kind : VarKind) : Parse Unit :=
  updateScope fun sc => { sc with vars := (name, constant, kind) :: sc.vars }

/-- Adds a name to the variables of a function, with the scopes around its first declaration. -/
def addVar (name : String) (f : FunctionState) : FunctionState :=
  { f with
    varScopes := if f.varScopes.any (·.1 == name) then f.varScopes
      else (name, f.scopes.map (·.id)) :: f.varScopes
    code := { f.code with
      vars := if f.code.vars.contains name then f.code.vars else f.code.vars ++ [name] } }

/-- Adds a name to the variables of the present function. -/
def addFunctionVar (name : String) : Parse Unit := updateFn (addVar name)

/-- Declares a name. -/
def defineVar (kind : DeclKind) (name : String) : Parse Unit := do
  let f ← fn
  match kind with
  | .var =>
    if (findLexical f name false).isSome then fail "invalid redefinition of lexical identifier"
    addFunctionVar name
  | .catchVar => addScopeVar name false .caught
  | _ =>
    let here := (f.scopes.head?.map (·.id)).getD 0
    match findLexical f name true with
    | some (sc, k) =>
      if sc.id == here then
        if f.code.strict || kind != .blockFunction || k != .function then
          fail "invalid redefinition of lexical identifier"
      else if k == .caught && ((f.scopes.drop 2).head?.map (·.id)) == some sc.id then
        fail "invalid redefinition of lexical identifier"
    | none => pure ()
    let isFunction := kind == .blockFunction || kind == .newBlockFunction
    if !isFunction && f.scopes.length ≤ 1 && f.code.params.contains (some name) then
      fail "invalid redefinition of parameter name"
    match f.varScopes.find? (·.1 == name) with
    | some (_, scopes) =>
      if scopes.contains here && !(isFunction && f.scopes.length ≤ 1) then
        fail (if f.isEval && f.evalGlobal then "invalid redefinition of global identifier"
          else "invalid redefinition of a variable")
    | none => pure ()
    addScopeVar name (kind == .constVar) (if isFunction then .function else .lexical)

end Parse

end ScriptHost.ProtoScript
