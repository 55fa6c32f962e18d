import ScriptHost.Regex.Syntax

/-!
# Code of the prototype-based language

Program text is translated into instructions for a machine with an operand stack.  Names are looked
up in scopes at run time, so an instruction carries the name itself.

* `Val` — the values that scripts compute with.
* `Instr` — the instructions; a comment gives the stack before and after, top right.
* `Code` — the translation of one function or program.
-/

namespace ScriptHost.ProtoScript

open Text (Units)

/-- A value of a script. -/
inductive Val where
  /-- No value at all: a hole of an array, or a variable before its initialization. -/
  | empty
  | undefined
  | null
  | bool (b : Bool)
  | num (x : Float)
  | big (i : Int)
  | str (s : Units)
  /-- A symbol, by its index in the table of symbols. -/
  | sym (id : Nat)
  /-- An object, by its index in the heap. -/
  | obj (id : Nat)
deriving Inhabited

inductive UnaryOp where
  | plus | minus | bitNot | not | typeOf | inc | dec | numeric
deriving DecidableEq

inductive BinaryOp where
  | add | sub | mul | div | mod | pow | shl | sar | shr | bitAnd | bitOr | bitXor
  | lt | le | gt | ge | eq | ne | strictEq | strictNe | isIn | instanceOf
deriving DecidableEq

/-- The role of a method in an object or class. -/
inductive MethodRole where
  | method | getter | setter
deriving DecidableEq

/-- A variable of a block. -/
structure BlockVar where
  name : String
  constant : Bool
deriving Inhabited

/-- The class of an error that the machine itself raises. -/
inductive ErrorKind where
  | error | syntaxError | referenceError | typeError | rangeError | uriError | evalError
  | internalError | aggregateError
deriving DecidableEq, Inhabited

/-- The name of an error class. -/
def ErrorKind.name : ErrorKind → String
  | .error => "Error"
  | .syntaxError => "SyntaxError"
  | .referenceError => "ReferenceError"
  | .typeError => "TypeError"
  | .rangeError => "RangeError"
  | .uriError => "URIError"
  | .evalError => "EvalError"
  | .internalError => "InternalError"
  | .aggregateError => "AggregateError"

/-- An instruction.  Jump targets are label numbers; functions are numbers in the table of codes. -/
inductive Instr where
  | nop
  /-- `→ v` -/
  | push (v : Val)
  | dup | drop | swap
  /-- `a b → b` -/
  | nip
  /-- `a b → a b a b` -/
  | dup2
  /-- `a v → v a v` -/
  | insert2
  /-- `a b v → v a b v` -/
  | insert3
  /-- `a b c v → v a b c v` -/
  | insert4
  /-- `a b v → b a v`, which brings the old value below its reference. -/
  | perm3
  /-- `a b c v → c a b v` -/
  | perm4
  /-- `a b c d v → d a b c v` -/
  | perm5
  /-- `a b c → b c a` -/
  | rotLeft3
  /-- `a b c → c a b` -/
  | rotRight3
  /-- `a b c d → b c d a` -/
  | rotLeft4
  /-- `→ this` -/
  | this
  /-- `→ new.target` -/
  | newTarget
  /-- `→ f` -/
  | closure (code : Nat)
  /-- `→ r` -/
  | regexp (r : Regex) (source : Units)
  /-- `→ strings` for a tagged template. -/
  | templateObject (cooked : List (Option Units)) (raw : List Units)
  | getVar (name : String)
  /-- Like `getVar`, with `undefined` for an unknown name. -/
  | getVarOrUndef (name : String)
  /-- Checks that a variable can be assigned, before its new value is computed. -/
  | checkVar (name : String)
  | putVar (name : String)
  /-- Gives a variable of the present scope its first value. -/
  | initVar (name : String)
  /-- Assigns to the function-wide variable of a block function. -/
  | putFunctionVar (name : String)
  | deleteVar (name : String)
  /-- `→ this f`: what a call of a plain name calls. -/
  | calleeVar (name : String)
  /-- `o → v` -/
  | getField (name : String)
  /-- `o → o v` -/
  | getFieldKeep (name : String)
  /-- `o k → v` -/
  | getElem
  /-- `o k → o v` -/
  | getElemMethod
  /-- `o k → o k v` -/
  | getElemKeep
  /-- `o v →` -/
  | putField (name : String)
  /-- `o k v →` -/
  | putElem
  /-- `o k → b` -/
  | deleteElem
  /-- `→ p`: the object where `super` looks things up. -/
  | superBase
  /-- `this p k → v` -/
  | getSuper
  /-- `this p k → this v` -/
  | getSuperMethod
  /-- `this p k → this p k v` -/
  | getSuperKeep
  /-- `this p k v →` -/
  | putSuper
  /-- `o name → v`, for a private name. -/
  | getPrivate
  /-- `o name → o v` -/
  | getPrivateMethod
  /-- `o name → o name v` -/
  | getPrivateKeep
  /-- `o name v →` -/
  | putPrivate
  /-- `o name v → o` -/
  | definePrivate
  /-- `o name f → o` -/
  | definePrivateMethod (role : MethodRole)
  /-- `o name → b` -/
  | hasPrivate
  /-- `→ name`: a new private name. -/
  | newPrivateName (text : String)
  /-- `k → k`, as a property key -/
  | toKey
  /-- `o k → o k`, with the key made a property key -/
  | toKeyUnder
  | newObject
  /-- `o v → o` -/
  | defineField (name : String)
  /-- `o k v → o` -/
  | defineElem
  /-- `o f → o` -/
  | defineMethod (name : String) (role : MethodRole) (enumerable : Bool)
  /-- `o k f → o` -/
  | defineMethodElem (role : MethodRole) (enumerable : Bool)
  /-- `o v → o` -/
  | setProto
  /-- `f → f`: names a function that has no name. -/
  | setName (name : String)
  /-- `k f → k f`: names a function by a computed key. -/
  | setNameFromKey
  /-- `o f → o f`: makes `o` the home of a method. -/
  | setHome
  /-- `o source → o`: copies all own enumerable properties. -/
  | copyProperties
  /-- `excluded source r₁ … rₙ → excluded source r₁ … rₙ o`: copies all other properties. -/
  | restProperties (depth : Nat)
  /-- `→ v`: an argument. -/
  | argument (index : Nat)
  /-- `→ a`: the arguments from an index on. -/
  | restArguments (index : Nat)
  | newArray
  /-- `v₁ … vₙ → a` -/
  | collect (count : Nat)
  /-- `a v → a` -/
  | arrayPush
  /-- `a → a` -/
  | arrayHole
  /-- `a iterable → a` -/
  | arraySpread
  /-- `f v₁ … vₙ → r` -/
  | call (count : Nat)
  /-- `this f v₁ … vₙ → r` -/
  | callMethod (count : Nat)
  /-- `f target v₁ … vₙ → r` -/
  | construct (count : Nat)
  /-- `this f array → r` -/
  | apply
  /-- `f target array → r` -/
  | constructApply
  /-- `f v₁ … vₙ → r`: a call of `eval` by that name. -/
  | directEval (count : Nat)
  /-- `→ f`: the constructor that `super(…)` calls. -/
  | superConstructor
  /-- `o → o`: sets `this` after `super(…)`. -/
  | bindThis
  /-- Runs the field definitions of the class on `this`. -/
  | initFields
  /-- Checks that the value of a derived constructor can be returned: `v → v`. -/
  | checkConstructed
  | unary (op : UnaryOp)
  | binary (op : BinaryOp)
  | jump (label : Nat)
  | jumpFalse (label : Nat)
  | jumpTrue (label : Nat)
  /-- `v → b` -/
  | isNullish
  /-- `v → b` -/
  | isUndefined
  | throwValue
  | throwKind (kind : ErrorKind) (message : String)
  /-- Errors from now on go to the label, with the error on the stack. -/
  | pushHandler (label : Nat)
  | popHandler
  /-- `… v → v`: gives up the handler and all that was pushed since. -/
  | nipHandler
  /-- `→ r`: calls a part of the same code. -/
  | gosub (label : Nat)
  /-- `r →` -/
  | endSub
  | returnValue
  /-- Starts to go through the property names of an object: `o → e`. -/
  | forIn
  /-- `e → e k done` -/
  | forInNext
  /-- `o → iterator next`, and errors from now on close the iterator. -/
  | iterate (async : Bool)
  /-- `iterator next → iterator next v done` -/
  | iterateNext
  /-- `iterator next →`, closing the iterator. -/
  | iterateClose
  /-- `iterator next →`, for an iterator that is done. -/
  | iterateDone
  /-- `iterator next v → v`, closing the iterator, whose handler was given up before. -/
  | iterateCloseUnder
  /-- `iterator next r₁ … rₙ → iterator next r₁ … rₙ v`: the next value, `undefined` at the end. -/
  | patternNext (depth : Nat)
  /-- `iterator next r₁ … rₙ → iterator next r₁ … rₙ array`: the rest of the values. -/
  | patternRest (depth : Nat)
  | enterScope (vars : List BlockVar) (functions : List (String × Nat))
  | leaveScope
  /-- Replaces the present scope by a copy. -/
  | renewScope
  /-- `o →` -/
  | enterWith
  /-- Takes the value of a statement as the value of the program: `v →`. -/
  | setCompletion
  | clearCompletion
  /-- `→ v` -/
  | getCompletion
  | initialYield
  /-- `v → v b`: hands out a value; `b` tells that the generator is to return. -/
  | yieldValue
  /-- `iterable → v b`: hands out all values of another iterator. -/
  | yieldAll
  | await
  /-- `v → v`: fails for `undefined` and `null`. -/
  | requireObject
  /-- `parent f → c p`: a class and its prototype. -/
  | defineClass (name : String) (hasParent : Bool)
  /-- `c p f → c p`: keeps the function that defines the fields. -/
  | setFields
deriving Inhabited

/-- How a function runs when it is called. -/
inductive FunctionKind where
  | normal | generator | async | asyncGenerator
deriving DecidableEq, Inhabited

/-- The form in which a function was written. -/
inductive FunctionForm where
  | plain | arrow | method | getter | setter | classConstructor | derivedConstructor
  | fields | program | evalProgram
deriving DecidableEq, Inhabited

/-- A position in a text; both parts count from 1. -/
structure Pos where
  line : Nat
  column : Nat
deriving DecidableEq, Inhabited

/-- The translation of one function or program. -/
structure Code where
  name : String := ""
  form : FunctionForm := .plain
  kind : FunctionKind := .normal
  strict : Bool := false
  /-- The number of parameters before the first that has a default or collects the rest. -/
  length : Nat := 0
  /-- The names of parameters; `none` for those that the code itself takes apart. -/
  params : List (Option String) := []
  /-- The parameter list is simple, so that `arguments` shares values with it. -/
  simpleParams : Bool := true
  /-- All variables declared with `var`, and functions of the function's own block. -/
  vars : List String := []
  functions : List (String × Nat) := []
  /-- `let`, `const` and `class` of the function's own block. -/
  lexicals : List BlockVar := []
  /-- The function needs `arguments`. -/
  usesArguments : Bool := false
  /-- The name under which a function expression sees itself. -/
  selfName : Option String := none
  instrs : Array Instr := #[]
  positions : Array Nat := #[]
  labels : Array Nat := #[]
  /-- The text of the function. -/
  source : Units := #[]
  /-- The file name shown in stack texts. -/
  file : String := "eval_script"
deriving Inhabited

/-- A position as one number. -/
def Pos.pack (p : Pos) : Nat := p.line * 0x1000000 + p.column

/-- The position of a number made by `Pos.pack`. -/
def Pos.unpack (n : Nat) : Pos := ⟨n / 0x1000000, n % 0x1000000⟩

/-- The position that an instruction belongs to. -/
def Code.posAt (c : Code) (pc : Nat) : Pos := .unpack (c.positions.getD pc 0)

end ScriptHost.ProtoScript
