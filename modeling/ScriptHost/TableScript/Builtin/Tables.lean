import ScriptHost.TableScript.Builtin.Sorting

/-!
# Functions on lists

A list is a table whose entries are counted from 1.  A metatable may stand in for the entries and for
the length, so every access asks it.

* `Tables.group` — the functions of the group `table`.
-/

namespace ScriptHost.TableScript.Builtin.Tables

open Text (Bytes)
open Script

/-! ## Lists -/

/-- What a function does with a list. -/
inductive Use where
  | reads | writes | measures
deriving DecidableEq

/-- The event that stands in for a use. -/
def Use.event : Use → Event
  | reads => .index
  | writes => .newIndex
  | measures => .length

/-- Refuses an argument that is neither a table nor stands in for one. -/
def checkList (args : Array Val) (i : Nat) (uses : List Use) : Script Unit := do
  match args.getD i .nil with
  | .table _ => return
  | v =>
    let m ← MonadState.get
    if (m.metatable? v).isNone || uses.any fun u => (m.handler v u.event).isNil then
      failType args i "table"

/-- The length of a value, which its metatable may tell. -/
def lengthOf (v : Val) : Script Int64 := do
  let m ← MonadState.get
  match v, m.handler v .length with
  | .str s, _ => return .ofNat s.size
  | .table id, .nil => return .ofNat (← borderOf id)
  | _, .nil => failOperand v .unknown "get length of"
  | _, f =>
    match (← callOne f #[v]).toInteger? with
    | some n => return n
    | none => failCall "object length is not an integer"

/-- The length of a list that a function uses. -/
def listLength (args : Array Val) (i : Nat) (uses : List Use) : Script Int64 := do
  checkList args i (uses ++ [.measures])
  lengthOf (args.getD i .nil)

/-- Moves items one place up: those from `low` to `high - 1`. -/
def shiftUp (list : Val) (low : Int64) : Nat → Int64 → Script Unit
  | 0, _ => return
  | n + 1, high => do
    if high ≤ low then return
    setIndex list (.int high) (← getIndex list (.int (high - 1)))
    shiftUp list low n (high - 1)

/-- Moves items one place down: those from `low + 1` to `high`; answers the place that is left. -/
def shiftDown (list : Val) (high : Int64) : Nat → Int64 → Script Int64
  | 0, low => return low
  | n + 1, low => do
    if low ≥ high then return low
    setIndex list (.int low) (← getIndex list (.int (low + 1)))
    shiftDown list high n (low + 1)

/-- The number of places between two integers, at least zero. -/
def distance (low high : Int64) : Nat := (high.toInt - low.toInt).toNat

def insert (args : Array Val) : Script (Array Val) := do
  let next := (← listLength args 0 [.reads, .writes]) + 1
  let list := args.getD 0 .nil
  match args.size with
  | 2 => setIndex list (.int next) (args.getD 1 .nil)
  | 3 =>
    let pos ← integerArg args 1
    require ((pos - 1).toUInt64 < next.toUInt64) 1 "position out of bounds"
    shiftUp list pos (distance pos next) next
    setIndex list (.int pos) (args.getD 2 .nil)
  | _ => failCall "wrong number of arguments to 'insert'"
  return #[]

def remove (args : Array Val) : Script (Array Val) := do
  let size ← listLength args 0 [.reads, .writes]
  let list := args.getD 0 .nil
  let pos ← integerOr args 1 size
  if pos != size then
    require ((size + 1 - pos).toUInt64 ≤ size.toUInt64) 1 "position out of bounds"
  let removed ← getIndex list (.int pos)
  let hole ← shiftDown list size (distance pos size) pos
  setIndex list (.int hole) .nil
  return #[removed]

/-- Copies items in ascending or descending order. -/
def copyItems (source target : Val) (first start : Int64) (ascending : Bool) :
    Nat → Int64 → Script Unit
  | 0, _ => return
  | n + 1, done => do
    let i := if ascending then done else .ofNat n
    setIndex target (.int (start + i)) (← getIndex source (.int (first + i)))
    copyItems source target first start ascending n (done + 1)

def move (args : Array Val) : Script (Array Val) := do
  let first ← integerArg args 1
  let last ← integerArg args 2
  let start ← integerArg args 3
  let i := if isAbsent args 4 then 0 else 4
  checkList args 0 [.reads]
  checkList args i [.writes]
  let source := args.getD 0 .nil
  let target := args.getD i .nil
  if last ≥ first then
    require (first > 0 || last < Int64.maxValue + first) 2 "too many elements to move"
    let n := last - first + 1
    require (start ≤ Int64.maxValue - n + 1) 3 "destination wrap around"
    let apart := start > last || start ≤ first || (i != 0 && !source.rawEqual target)
    copyItems source target first start apart n.toInt.toNat 0
  return #[target]

/-- The text of an item that is part of a joined list. -/
def pieceOf (list : Val) (i : Int64) : Script Bytes := do
  let v ← getIndex list (.int i)
  match v.text? with
  | some s => return s
  | none =>
    failCall ("invalid value (" ++ v.typeName ++ ") at index " ++ Number.intText i
      ++ " in table for 'concat'")

/-- Joins items with a separator between them. -/
def joinFrom (list : Val) (sep : Bytes) (last : Int64) : Nat → Int64 → Bytes → Script Bytes
  | 0, _, done => return done
  | n + 1, i, done => do
    if i > last then return done
    let piece ← pieceOf list i
    if i == last then return done ++ piece
    joinFrom list sep last n (i + 1) (done ++ piece ++ sep)

def concat (args : Array Val) : Script (Array Val) := do
  let size ← listLength args 0 [.reads]
  let sep ← textOr args 1 Bytes.empty
  let first ← integerOr args 2 1
  let last ← integerOr args 3 size
  let list := args.getD 0 .nil
  return #[.str (← joinFrom list sep last (distance first last + 1) first Bytes.empty)]

/-- A list of all arguments, with their number. -/
def pack (args : Array Val) : Script (Array Val) := do
  let t : Table := (args.foldl (fun (t, i) v => (Table.store t (.ofNat i) v, i + 1))
    (({} : Table), 1)).1
  return #[← newTable (t.storeText "n" (.ofNat args.size))]

/-- The greatest number of results that have room. -/
def resultLimit : Nat := 1000000

/-- The items from one place on. -/
def itemsFrom (list : Val) : Nat → Int64 → Array Val → Script (Array Val)
  | 0, _, vs => return vs
  | n + 1, i, vs => do itemsFrom list n (i + 1) (vs.push (← getIndex list (.int i)))

/-- All items as results. -/
def unpack (args : Array Val) : Script (Array Val) := do
  let list := args.getD 0 .nil
  let first ← integerOr args 1 1
  let last ← if isAbsent args 2 then lengthOf list else integerArg args 2
  if first > last then return #[]
  let n := distance first last + 1
  if n ≥ resultLimit then failCall "too many results to unpack"
  itemsFrom list n first #[]

def sort (args : Array Val) : Script (Array Val) := do
  let n ← listLength args 0 [.reads, .writes]
  if n > 1 then
    require (n < 2147483647) 0 "array too big"
    let order ← if isAbsent args 1 then pure none else do pure (some (← functionArg args 1))
    Sorting.sort (args.getD 0 .nil) order n.toInt.toNat
  return #[]

/-- The functions on lists. -/
def group : FunctionGroup where
  name := "table"
  natives := [
    ⟨"concat", fun _ args => concat args⟩,
    ⟨"insert", fun _ args => insert args⟩,
    ⟨"pack", fun _ args => pack args⟩,
    ⟨"unpack", fun _ args => unpack args⟩,
    ⟨"remove", fun _ args => remove args⟩,
    ⟨"move", fun _ args => move args⟩,
    ⟨"sort", fun _ args => sort args⟩]

end ScriptHost.TableScript.Builtin.Tables
