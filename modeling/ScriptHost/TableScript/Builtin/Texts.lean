import ScriptHost.TableScript.Builtin.Formatting
import ScriptHost.TableScript.Builtin.Matching
import ScriptHost.TableScript.Packing

/-!
# Functions on texts

* `Texts.group` — the functions of the group `string`.
* `Texts.operations` — arithmetic on texts that stand for numbers.
-/

namespace ScriptHost.TableScript.Builtin.Texts

open Text (Bytes)
open Script

/-! ## Bytes -/

/-- The greatest size of a text that is made of copies. -/
def sizeLimit : Nat := 2147483647

/-- The greatest number of results that have room. -/
def resultLimit : Nat := 1000000

/-- The part of a text between two positions. -/
def part (args : Array Val) : Script (Array Val) := do
  let s ← textArg args 0
  let start := startPosition (← integerArg args 1) s.size
  let stop := endPosition (← integerOr args 2 (-1)) s.size
  return #[.str (if start ≤ stop then s.slice (start - 1) stop else Bytes.empty)]

/-- The bytes between two positions as numbers. -/
def bytes (args : Array Val) : Script (Array Val) := do
  let s ← textArg args 0
  let first ← integerOr args 1 1
  let start := startPosition first s.size
  let stop := endPosition (← integerOr args 2 first) s.size
  if start > stop then return #[]
  if stop - start + 1 ≥ resultLimit then fail "stack overflow (string slice too long)"
  return ((s.slice (start - 1) stop).toList.map fun c => Val.ofNat c.toNat).toArray

/-- The text of some bytes. -/
def ofBytes (args : Array Val) : Script (Array Val) := do
  let mut bs : Array UInt8 := #[]
  for i in [0:args.size] do
    let c ← integerArg args i
    require (0 ≤ c && c ≤ 255) i "value out of range"
    bs := bs.push c.toUInt64.toUInt8
  return #[.str ⟨bs⟩]

/-- Copies of a text with a separator between them. -/
def repeated (args : Array Val) : Script (Array Val) := do
  let s ← textArg args 0
  let n ← integerArg args 1
  let sep ← textOr args 2 Bytes.empty
  if n ≤ 0 then return #[.str Bytes.empty]
  let n := n.toInt.toNat
  if s.size + sep.size > sizeLimit / n then failCall "resulting string too large"
  return #[.str (Bytes.replicate (n - 1) (s ++ sep) ++ s)]

/-- A text with every byte changed. -/
def mapped (f : UInt8 → UInt8) (args : Array Val) : Script (Array Val) := do
  return #[.str ⟨(← textArg args 0).data.map f⟩]

/-- The binary form of a function.  It is only a mark, which cannot be read back. -/
def dump (args : Array Val) : Script (Array Val) := do
  match ← functionArg args 0 with
  | .function id =>
    match (← MonadState.get).functions.getD id default with
    | .script _ _ => return #[.str (.ofString "\x1bLuaT")]
    | _ => failCall "unable to dump given function"
  | _ => return #[]

/-! ## Binary form -/

/-- A part of a format, or the error that it is wrong. -/
def admitted {α : Type} (answer : Except Packing.Fault α) : Script α := do
  match answer with
  | .ok a => return a
  | .error (.format message) => failCall message
  | .error (.argument message) => failArgument 1 message

/-- A format up to the first zero byte. -/
def formatArg (args : Array Val) : Script (List Char) := return (← textArg args 0).untilZero.chars

/-- The bytes of an argument, and whether the item takes one. -/
def packItem (l : Packing.Layout) (item : Packing.Item) (args : Array Val) (i : Nat) :
    Script (Bytes × Bool) := do
  match item.kind with
  | .signed =>
    let n ← integerArg args i
    if item.size < Packing.wordSize then
      let limit := Int.pow 2 (8 * item.size - 1)
      require (-limit ≤ n.toInt && n.toInt < limit) i "integer overflow"
    return (Packing.integerBytes l n.toInt item.size, true)
  | .unsigned =>
    let n ← integerArg args i
    if item.size < Packing.wordSize then
      require (n.toUInt64.toNat < Nat.pow 2 (8 * item.size)) i "unsigned overflow"
    return (Packing.integerBytes l (n.toUInt64.toNat : Int) item.size, true)
  | .single => return (Packing.singleBytes l (← floatArg args i), true)
  | .double => return (Packing.doubleBytes l (← floatArg args i), true)
  | .fixedText =>
    let s ← textArg args i
    require (s.size ≤ item.size) i "string longer than given size"
    return (s ++ Bytes.replicate (item.size - s.size) (.ofList [0]), true)
  | .countedText =>
    let s ← textArg args i
    require (item.size ≥ Packing.wordSize || s.size < Nat.pow 2 (8 * item.size)) i
      "string length does not fit in given size"
    return (Packing.integerBytes l (s.size : Int) item.size ++ s, true)
  | .endedText =>
    let s ← textArg args i
    require (!s.toList.contains 0) i "string contains zeros"
    return (s ++ Bytes.ofList [0], true)
  | .padding => return (Bytes.ofList [0], false)
  | .alignmentOnly | .nothing => return (Bytes.empty, false)

/-- The binary form of arguments. -/
def packFrom (args : Array Val) : Nat → Packing.Layout → List Char → Nat → Bytes → Script Bytes
  | 0, _, _, _, done => return done
  | _, _, [], _, done => return done
  | fuel + 1, l, c :: rest, i, done => do
    let (item, l, rest) ← admitted (l.next done.size c rest)
    let (piece, taken) ← packItem l item args i
    packFrom args fuel l rest (if taken then i + 1 else i)
      (done ++ Bytes.replicate item.before (.ofList [0]) ++ piece)

/-- The size of a format. -/
def sizeFrom : Nat → Packing.Layout → List Char → Nat → Script Nat
  | 0, _, _, total => return total
  | _, _, [], total => return total
  | fuel + 1, l, c :: rest, total => do
    let (item, l, rest) ← admitted (l.next total c rest)
    require (item.kind != .countedText && item.kind != .endedText) 0 "variable-length format"
    let total := total + item.before + item.size
    require (total ≤ sizeLimit) 0 "format result too large"
    sizeFrom fuel l rest total

/-- The value of an item that begins at a position, if it has one, and its size. -/
def unpackItem (l : Packing.Layout) (item : Packing.Item) (data : Bytes) (pos : Nat) :
    Script (Option Val × Nat) := do
  let own := data.slice pos (pos + item.size)
  let integer (signed : Bool) : Script Int64 := do
    match Packing.readInteger l own signed with
    | some n => return n
    | none => failCall (toString item.size ++ "-byte integer does not fit into Lua Integer")
  match item.kind with
  | .signed => return (some (.int (← integer true)), item.size)
  | .unsigned => return (some (.int (← integer false)), item.size)
  | .single => return (some (.num (Packing.readSingle l own)), item.size)
  | .double => return (some (.num (Packing.readDouble l own)), item.size)
  | .fixedText => return (some (.str own), item.size)
  | .countedText =>
    let n := (← integer false).toUInt64.toNat
    let start := pos + item.size
    require (n ≤ data.size - start) 1 "data string too short"
    return (some (.str (data.slice start (start + n))), item.size + n)
  | .endedText =>
    let s := (data.slice pos data.size).untilZero
    require (pos + s.size < data.size) 1 "unfinished string for format 'z'"
    return (some (.str s), s.size + 1)
  | .padding | .alignmentOnly | .nothing => return (none, item.size)

/-- The values of a binary form, and the position after it. -/
def unpackFrom (data : Bytes) :
    Nat → Packing.Layout → List Char → Nat → Array Val → Script (Array Val)
  | 0, _, _, pos, vs => return vs.push (.ofNat (pos + 1))
  | _, _, [], pos, vs => return vs.push (.ofNat (pos + 1))
  | fuel + 1, l, c :: rest, pos, vs => do
    let (item, l, rest) ← admitted (l.next pos c rest)
    require (item.before + item.size ≤ data.size - pos) 1 "data string too short"
    let pos := pos + item.before
    let (v, size) ← unpackItem l item data pos
    unpackFrom data fuel l rest (pos + size) (vs ++ v.toArray)

def pack (args : Array Val) : Script (Array Val) := do
  let format ← formatArg args
  return #[.str (← packFrom args format.length {} format 1 Bytes.empty)]

def packedSize (args : Array Val) : Script (Array Val) := do
  let format ← formatArg args
  return #[.ofNat (← sizeFrom format.length {} format 0)]

def unpack (args : Array Val) : Script (Array Val) := do
  let format ← formatArg args
  let data ← textArg args 1
  let pos := startPosition (← integerOr args 2 1) data.size - 1
  require (pos ≤ data.size) 2 "initial position out of string"
  unpackFrom data format.length {} format pos #[]

/-! ## Arithmetic -/

/-- An operation on texts that stand for numbers; other values may have a function for it. -/
def calculate (e : Event) (compute : Val → Val → Option (Except ArithFault Val))
    (args : Array Val) : Script (Array Val) := do
  let a := args.getD 0 .nil
  let b := args.getD 1 .nil
  match a.toNumber?, b.toNumber? with
  | some x, some y =>
    match compute x y with
    | some (.ok v) => return #[v]
    | some (.error fault) => fail fault.message
    | none => return #[.nil]
  | _, _ =>
    let m ← MonadState.get
    let refuse : Script (Array Val) :=
      failCall ("attempt to " ++ e.word ++ " a '" ++ a.typeName ++ "' with a '"
        ++ b.typeName ++ "'")
    match b with
    | .str _ => refuse
    | _ => match m.handler b e with
      | .nil => refuse
      | f => return #[← callOne f #[a, b]]

/-- An operation on texts, as a function with the name of its event. -/
def operation (op : ArithOp) : Event × Native :=
  (op.event, ⟨"__" ++ op.event.word, fun _ args => calculate op.event op.compute? args⟩)

/-- What texts do when an operation has one of them as operand. -/
def operations : List (Event × Native) :=
  [ArithOp.add, .sub, .mul, .mod, .pow, .div, .floorDiv].map operation ++
    [(.minus, ⟨"__unm", fun _ args =>
      calculate .minus (fun a _ => a.negate?.map .ok) args⟩)]

/-! ## The group -/

/-- The function that answers the next match; it stands among those that others answer. -/
def matchAnswerer : Native := ⟨"gmatch_next", fun f _ => Matching.answerMatch f⟩

/-- The functions on texts; `matchIndex` is the number of `matchAnswerer`. -/
def group (matchIndex : Nat) : FunctionGroup where
  name := "string"
  natives := [
    ⟨"byte", fun _ args => bytes args⟩,
    ⟨"char", fun _ args => ofBytes args⟩,
    ⟨"dump", fun _ args => dump args⟩,
    ⟨"find", fun _ args => Matching.search true args⟩,
    ⟨"format", fun _ args => Formatting.format args⟩,
    ⟨"gmatch", fun _ args => Matching.eachMatch matchIndex args⟩,
    ⟨"gsub", fun _ args => Matching.substitute args⟩,
    ⟨"len", fun _ args => do return #[.ofNat (← textArg args 0).size]⟩,
    ⟨"lower", fun _ args => mapped Pattern.lower args⟩,
    ⟨"match", fun _ args => Matching.search false args⟩,
    ⟨"rep", fun _ args => repeated args⟩,
    ⟨"reverse", fun _ args => do return #[.str ⟨(← textArg args 0).data.reverse⟩]⟩,
    ⟨"sub", fun _ args => part args⟩,
    ⟨"upper", fun _ args => mapped Pattern.upper args⟩,
    ⟨"pack", fun _ args => pack args⟩,
    ⟨"packsize", fun _ args => packedSize args⟩,
    ⟨"unpack", fun _ args => unpack args⟩]

end ScriptHost.TableScript.Builtin.Texts
