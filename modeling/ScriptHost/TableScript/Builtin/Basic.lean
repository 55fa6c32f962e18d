import ScriptHost.TableScript.Builtin.Argument

/-!
# Functions without a group

* `Basic.natives` — the functions that are global variables themselves.
* `Basic.loadText` — a text or its pieces as a function.
-/

namespace ScriptHost.TableScript.Builtin.Basic

open Text (Bytes)
open Script

/-! ## Errors -/

/-- The beginning of a message: the place of a level that may not be there. -/
def placeAt (level : Int64) : Script Bytes := do
  return placeOf (← levels)[level.toInt.toNat]?

/-- Raises a value; a text gets the place of the function at a level. -/
def raiseAt (args : Array Val) : Script (Array Val) := do
  let level ← integerOr args 1 1
  match args.getD 0 .nil with
  | .str s =>
    if level > 0 then raise (.str ((← placeAt level) ++ s)) else raise (.str s)
  | v => raise v

/-- Answers its arguments if the first one is true. -/
def assertTrue (args : Array Val) : Script (Array Val) := do
  if (args.getD 0 .nil).isTrue then return args
  let _ ← anyArg args 0
  raiseAt #[args.getD 1 (.ofString "assertion failed!")]

/-! ## Tables -/

/-- What a value lets be seen as its metatable. -/
def shownMetatable (v : Val) : Script Val := do
  let m ← MonadState.get
  match v with
  | .failure _ => return .bool false
  | _ => match m.metatable? v with
    | none => return .nil
    | some mt => match m.handler v .protection with
      | .nil => return .table mt
      | w => return w

def setMetatable (args : Array Val) : Script (Array Val) := do
  let id ← tableArg args 0
  let mt ← match given? args 1 with
    | some .nil => pure none
    | some (.table mt) => pure (some mt)
    | _ => failType args 1 "nil or table"
  if !((← MonadState.get).handler (.table id) .protection).isNil then
    failCall "cannot change a protected metatable"
  updateTable id fun t => { t with metatable := mt }
  return #[.table id]

/-- The entry after a key. -/
def nextEntry (id : Nat) (key : Val) : Script (Array Val) := do
  match (← tableAt id).next? key with
  | some (some (k, v)) => return #[k, v]
  | some none => return #[.nil]
  | none => fail "invalid key to 'next'"

def rawLength (args : Array Val) : Script (Array Val) := do
  match args.getD 0 .nil with
  | .table id => return #[.ofNat (← borderOf id)]
  | .str s => return #[.ofNat s.size]
  | _ => failType args 0 "table or string"

/-- The next item of a list. -/
def nextItem (args : Array Val) : Script (Array Val) := do
  let i := (← integerArg args 1) + 1
  match ← getIndex (args.getD 0 .nil) (.int i) with
  | .nil => return #[.nil]
  | v => return #[.int i, v]

/-! ## Numbers -/

/-- The value of a digit in bases up to 36. -/
def digit? (c : Char) : Option Nat :=
  if c.isDigit then some (c.toNat - 48)
  else if 'a' ≤ c && c ≤ 'z' then some (c.toNat - 87)
  else if 'A' ≤ c && c ≤ 'Z' then some (c.toNat - 55)
  else none

/-- The integer that a text stands for in a base; it wraps around. -/
def parseInBase? (cs : List Char) (base : Nat) : Option Int64 := do
  let (negative, cs) := Number.takeSign (cs.dropWhile Number.isSpace)
  let digits := cs.takeWhile fun c => (digit? c).isSome
  if digits.isEmpty || !(cs.dropWhile fun c => (digit? c).isSome).all Number.isSpace then none
  let values := digits.filterMap digit?
  if values.any (· ≥ base) then none
  let n : Nat := values.foldl (fun n d => base * n + d) 0
  let n : Int := n
  return .ofInt (if negative then -n else n)

/-- The number that a value stands for. -/
def toNumber (args : Array Val) : Script (Array Val) := do
  if isAbsent args 1 then
    let v ← anyArg args 0
    return #[v.toNumber?.getD .nil]
  let base ← integerArg args 1
  match args.getD 0 .nil with
  | .str s =>
    require (2 ≤ base && base ≤ 36) 1 "base out of range"
    match parseInBase? s.chars base.toInt.toNat with
    | some n => return #[.int n]
    | none => return #[.nil]
  | _ => failType args 0 "string"

/-- Some of the arguments, or their number. -/
def select (args : Array Val) : Script (Array Val) := do
  let rest := args.extract 1 args.size
  let counts := match given? args 0 with
    | some (.str s) => s.byteAt 0 == 35
    | _ => false
  if counts then return #[.ofNat rest.size]
  let i := (← integerArg args 0).toInt
  let n : Int := args.size
  let i := if i < 0 then n + i else min i n
  require (1 ≤ i) 0 "index out of range"
  return args.extract i.toNat args.size

/-! ## Texts of programs -/

/-- The longest name of a text that messages show in full. -/
def sourceLimit : Nat := 60

/-- The name of a text as messages show it. -/
def sourceName (name : Bytes) : Bytes :=
  let name := name.untilZero
  let rest := name.slice 1 name.size
  match Char.ofNat (name.byteAt 0).toNat with
  | '=' => rest.slice 0 (sourceLimit - 1)
  | '@' =>
    if rest.size < sourceLimit then rest
    else .ofString "..." ++ rest.slice (rest.size - (sourceLimit - 4)) rest.size
  | _ =>
    let line := Bytes.ofList (name.toList.takeWhile (· != 10))
    let room := sourceLimit - 15
    if line.size == name.size && name.size < room then
      .ofString "[string \"" ++ name ++ .ofString "\"]"
    else .ofString "[string \"" ++ line.slice 0 room ++ .ofString "...\"]"

/-- The name that a message about a text in binary form shows. -/
def binaryName (name : Bytes) : Bytes :=
  match Char.ofNat (name.byteAt 0).toNat with
  | '=' | '@' => name.slice 1 name.size
  | '\x1b' => .ofString "binary string"
  | _ => name

/-- The pieces of a text that a function answers one after the other. -/
def readPieces (reader : Val) : Nat → Bytes → Script Bytes
  | 0, text => return text
  | fuel + 1, text => do
    match ← callOne reader #[] with
    | .nil => return text
    | v => match v.text? with
      | some piece => if piece.size = 0 then return text else readPieces reader fuel (text ++ piece)
      | none => failCall "reader function must return a string"

/-- A text as a function, or what is wrong with it.  `mode` tells which forms of texts are admitted. -/
def loadText (text name mode : Bytes) (environment : Val) : Script (Array Val) := do
  let isBinary := text.byteAt 0 == 0x1b
  let (form, mark) : String × UInt8 := if isBinary then ("binary", 98) else ("text", 116)
  if !mode.untilZero.toList.contains mark then
    return refusal (.ofString ("attempt to load a " ++ form ++ " chunk (mode is '") ++ mode.untilZero
      ++ .ofString "')")
  match ← Script.load text (if isBinary then binaryName name else sourceName name) environment with
  | .ok f => return #[f]
  | .error fault => return refusal fault.message

/-- A text, or the pieces that a function answers, as a function. -/
def loadChunk (args : Array Val) : Script (Array Val) := do
  let mode ← textOr args 2 (.ofString "bt")
  let environment := args.getD 3 (.table globalTable)
  match (args.getD 0 .nil).text? with
  | some text => loadText text (← textOr args 1 text) mode environment
  | none =>
    let name ← textOr args 1 (.ofString "=(load)")
    let reader ← functionArg args 0
    let text ← catching (return Except.ok (← readPieces reader stepLimit Bytes.empty)) fun e =>
      return .error e
    match text with
    | .ok text => loadText text name mode environment
    | .error e => return #[.nil, e]

/-- What reading a file comes to: machines see no files. -/
def missingFile (name : Bytes) : Bytes :=
  .ofString "cannot open " ++ name.untilZero ++ .ofString ": No such file or directory"

/-- The function of a file; without a name it is that of an empty text. -/
def loadFile (args : Array Val) : Script (Array Val) := do
  if isAbsent args 0 then
    loadText Bytes.empty (.ofString "=stdin") (.ofString "bt") (.table globalTable)
  else return refusal (missingFile (← textArg args 0))

def doFile (args : Array Val) : Script (Array Val) := do
  if isAbsent args 0 then return #[]
  raise (.str (missingFile (← textArg args 0)))

/-! ## Memory -/

/-- What may be asked of the management of memory. -/
def memoryRequests : List String := [
  "stop", "restart", "collect", "count", "step", "setpause", "setstepmul", "isrunning",
  "generational", "incremental"]

/-- Memory is managed by the host; a script only gets answers. -/
def manageMemory (args : Array Val) : Script (Array Val) := do
  match ← choiceArg args 0 (some "collect") memoryRequests with
  | "count" =>
    let m ← MonadState.get
    return #[.num (22 + (m.tables.size + m.functions.size + m.cells.size).toFloat / 16)]
  | "step" | "isrunning" => return truth true
  | "setpause" => return #[.int 200]
  | "setstepmul" => return #[.int 100]
  | "generational" | "incremental" => return #[.ofString "incremental"]
  | _ => return #[.int 0]

/-! ## All of them -/

/-- The number of the function that answers the next item of a list. -/
def nextItemIndex : Nat := 0

/-- The number of the function that answers the next entry of a table. -/
def nextEntryIndex : Nat := 1

/-- Functions that others answer; they stand at the beginning of all functions. -/
def answered : List Native := [
  ⟨"ipairs_next", fun _ args => nextItem args⟩,
  ⟨"next", fun _ args => do nextEntry (← tableArg args 0) (args.getD 1 .nil)⟩]

/-- The entries of a table, or what its metatable answers instead. -/
def pairsOf (next : Val) (args : Array Val) : Script (Array Val) := do
  let v ← anyArg args 0
  match (← MonadState.get).handler v .pairs with
  | .nil => return #[next, v, .nil]
  | f =>
    let vs ← call f #[v]
    return #[vs.getD 0 .nil, vs.getD 1 .nil, vs.getD 2 .nil]

/-- Shows its arguments; the host has no place for texts that scripts print. -/
def printAll (args : Array Val) : Script (Array Val) := do
  for v in args do
    let _ ← displayText v
  return #[]

/-- A message for the user, which the host has no place for either. -/
def warn (args : Array Val) : Script (Array Val) := do
  let _ ← textArg args 0
  for i in [1:args.size] do
    let _ ← textArg args i
  return #[]

/-- The functions that are global variables themselves. -/
def natives : List Native := [
  ⟨"assert", fun _ args => assertTrue args⟩,
  ⟨"collectgarbage", fun _ args => manageMemory args⟩,
  ⟨"dofile", fun _ args => doFile args⟩,
  ⟨"error", fun _ args => raiseAt args⟩,
  ⟨"getmetatable", fun _ args => do return #[← shownMetatable (← anyArg args 0)]⟩,
  ⟨"ipairs", fun _ args => do
    let v ← anyArg args 0
    return #[.function nextItemIndex, v, .int 0]⟩,
  ⟨"load", fun _ args => loadChunk args⟩,
  ⟨"loadfile", fun _ args => loadFile args⟩,
  ⟨"pairs", fun _ args => pairsOf (.function nextEntryIndex) args⟩,
  ⟨"print", fun _ args => printAll args⟩,
  ⟨"rawequal", fun _ args => do
    let a ← anyArg args 0
    return truth (a.rawEqual (← anyArg args 1))⟩,
  ⟨"rawget", fun _ args => do
    let id ← tableArg args 0
    return #[(← tableAt id).get (← anyArg args 1)]⟩,
  ⟨"rawlen", fun _ args => rawLength args⟩,
  ⟨"rawset", fun _ args => do
    let id ← tableArg args 0
    let key ← anyArg args 1
    rawStore id key (← anyArg args 2)
    return #[.table id]⟩,
  ⟨"select", fun _ args => select args⟩,
  ⟨"setmetatable", fun _ args => setMetatable args⟩,
  ⟨"tonumber", fun _ args => toNumber args⟩,
  ⟨"tostring", fun _ args => do return #[.str (← displayText (← anyArg args 0))]⟩,
  ⟨"type", fun _ args => do return #[.ofString (← anyArg args 0).typeName]⟩,
  ⟨"warn", fun _ args => warn args⟩]

end ScriptHost.TableScript.Builtin.Basic
