import ScriptHost.ProtoScript.Parser.Function

/-!
# Programs

The productions are tied together here, up to a depth of nesting that no text can exceed, and complete
programs are parsed.

* `Parse.grammar` — the productions, with a bound on their nesting.
* `Program.parse` — the codes of a program, the program's own last.
-/

namespace ScriptHost.ProtoScript

open Text (Units)

namespace Parse

/-- A statement or a function declaration in the block of a function or program. -/
def sourceElement (g : Grammar) (mask : DeclMask) : Parse Unit := do
  let atTop ← atBody
  let inStatement := !(← fn).breaks.isEmpty
  let isFunction ← if ← isKeyword "function" then pure true
    else if ← isName "async" then do
      let (t, newline) ← Lexer.peek
      pure (!newline && (match t with
        | .keyword "function" => true
        | _ => false))
    else pure false
  if isFunction && atTop && !inStatement && mask.others then
    let _ ← g.function .declaration .normal (← get).start
  else statementExpression g mask

/-- The productions nested up to a depth. -/
def grammar : Nat → Grammar
  | 0 =>
    let stop {α : Type} : Parse α := fail "stack overflow"
    { assign := fun _ => stop, expression := fun _ => stop, unary := fun _ => stop
      member := fun _ => stop, statement := fun _ => stop, function := fun _ _ _ => stop
      classBody := fun _ => stop, pattern := fun _ => stop }
  | depth + 1 =>
    { assign := fun inOk => assignment (grammar depth) (emitReturn true) inOk
      expression := fun inOk => commaExpression (grammar depth) inOk
      unary := fun power => unaryExpression (grammar depth) power
      member := fun calls => memberExpression (grammar depth) calls
      statement := fun mask => sourceElement (grammar depth) mask
      function := fun role kind start => functionExpression (grammar depth) role kind start
      classBody := fun isExpression => classDefinition (grammar depth) isExpression
      pattern := fun mode => patternExpression (grammar depth) mode }

end Parse

/-- Where a program comes from and what it may contain. -/
structure ProgramMode where
  /-- The program declares its variables in the global scope. -/
  isGlobal : Bool := true
  strict : Bool := false
  superCallAllowed : Bool := false
  superAllowed : Bool := false
  newTargetAllowed : Bool := false
  argumentsAllowed : Bool := true
  file : String := "eval_script"
  /-- The number of the first code. -/
  base : Nat := 0

namespace Program

open Parse

/-- Parses a whole text. -/
def reader (g : Grammar) : Parse Unit := do
  next
  directives
  repeatStep do
    if ← isEof then return false
    g.statement .all
    return true
  emit .getCompletion
  emit .returnValue

/-- The first place after the line that names an interpreter. -/
def afterShebang (chars : List Char) : Cursor :=
  let i : Cursor := { rest := chars }
  if i.char == '#' && i.charAfter 1 == '!' then
    i.skip (chars.takeWhile fun c => !Lexer.isNewline c).length
  else i

/-- The function that a program is while its text is read. -/
def body (mode : ProgramMode) : FunctionState where
  code := {
    name := "<eval>"
    form := if mode.isGlobal then .program else .evalProgram
    strict := mode.strict
    file := mode.file }
  scopes := [{ id := 0 }]
  isEval := true
  evalGlobal := mode.isGlobal
  inBody := true
  superCallAllowed := mode.superCallAllowed
  superAllowed := mode.superAllowed
  newTargetAllowed := mode.newTargetAllowed
  argumentsAllowed := mode.argumentsAllowed

/-- The state of the parser before anything is read. -/
def start (chars : List Char) (mode : ProgramMode) : ParserState where
  size := chars.length
  here := afterShebang chars
  fn := body mode
  base := mode.base
  file := mode.file

/-- Parses the characters of a program: its codes in order of their numbers, the last of which is the
program's own. -/
def parseChars (chars : List Char) (mode : ProgramMode) : Except SyntaxFault (Array Code) :=
  match (reader (grammar (4 * chars.length + 64))).run (start chars mode) with
  | .ok _ s => .ok (s.codes.push (closeBody s.fn))
  | .error e _ => .error e

/-- Parses a program. -/
def parse (text : String) (mode : ProgramMode) : Except SyntaxFault (Array Code) :=
  parseChars text.toList mode

end Program

end ScriptHost.ProtoScript
