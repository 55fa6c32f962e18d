import ScriptHost.TableScript.Code

/-!
# Tables

A table has an array part for the keys from 1 on, and a hash part.  The hash part is a list of nodes in
which every key has a main place; a key whose main place is taken by a key that belongs there goes to
the last free node and is linked to from its main place.  The parts get new sizes only when a key is
added and no node is free.  The order of a traversal and the border of a table that has gaps follow
from this layout.

* `Table.get`, `Table.store` — reading and writing; the empty value is `nil`.
* `Table.border` — an `n` with a value under `n` and none under `n + 1`.
* `Table.next?` — the entry after a key in a traversal.
-/

namespace ScriptHost.TableScript

open Text (Bytes)

/-- A node of the hash part; `nil` as key is a node that was never used. -/
structure Node where
  key : Val := .nil
  value : Val := .nil
  /-- The next node with the same main place. -/
  next : Option Nat := none
deriving Inhabited

structure Table where
  items : Array Val := #[]
  /-- A hint where the border is: at most the size of the array part. -/
  limit : Nat := 0
  nodes : Array Node := #[]
  /-- All nodes from here on are in use. -/
  free : Nat := 0
  metatable : Option Nat := none
deriving Inhabited

namespace Table

/-! ## Places -/

/-- A number that spreads the bytes of a text. -/
def textHash (s : Bytes) : UInt32 :=
  s.foldl (fun h b => h ^^^ ((h <<< 5) + (h >>> 2) + b.toUInt32)) s.size.toUInt32

/-- A number that spreads doubles. -/
def floatHash (x : Float) : Nat :=
  if x.isNaN || x == Number.infinity || x == -Number.infinity then 0
  else
    let (fraction, e) := x.frExp
    let n := fraction * 2147483648.0
    let i := n.toInt64
    let u := (i.toUInt64.toUInt32 + (Int64.ofInt e).toUInt64.toUInt32)
    (if u ≤ 0x7FFFFFFF then u else ~~~u).toNat

/-- The main place of a key. -/
def mainPlace (nodes : Array Node) (key : Val) : Nat :=
  let n := nodes.size
  let odd (h : Nat) : Nat := h % ((n - 1) ||| 1)
  match key with
  | .int i => odd i.toUInt64.toNat
  | .num x => odd (floatHash x)
  | .str s => (textHash s).toNat % n
  | .bool b => b.toNat % n
  | .table i => odd (4 * i)
  | .function i => odd (4 * i + 1)
  | .thread i => odd (4 * i + 2)
  | .failure i | .file i => odd (4 * i + 3)
  | _ => 0

/-- Looks for a key along the links from a node. -/
def findFrom (nodes : Array Node) (key : Val) : Nat → Nat → Option Nat
  | 0, _ => none
  | fuel + 1, i => match nodes[i]? with
    | none => none
    | some node =>
      if Val.rawEqual node.key key then some i
      else match node.next with
        | none => none
        | some j => findFrom nodes key fuel j

/-- The node of a key. -/
def node? (t : Table) (key : Val) : Option Nat :=
  if t.nodes.size = 0 then none
  else findFrom t.nodes key t.nodes.size (mainPlace t.nodes key)

/-- The key as it is stored: a double that is an integer counts as that. -/
def normalKey : Val → Val
  | .num x => match Number.toInteger? x with
    | some i => .int i
    | none => .num x
  | v => v

/-- The place of a key in the array part. -/
def itemIndex? (t : Table) : Val → Option Nat
  | .int i => if 1 ≤ i && i.toInt ≤ t.items.size then some (i.toInt.toNat - 1) else none
  | _ => none

/-! ## Reading -/

/-- The value of a key. -/
def get (t : Table) (key : Val) : Val :=
  let key := normalKey key
  match t.itemIndex? key with
  | some i => t.items.getD i .nil
  | none => match t.node? key with
    | some i => (t.nodes.getD i {}).value
    | none => .nil

/-- The value of a text. -/
def getText (t : Table) (name : String) : Val := t.get (.ofString name)

/-! ## Sizes -/

/-- The exponent of the least power of two that is not below `n`. -/
def ceilLog (n : Nat) : Nat := if n ≤ 1 then 0 else Nat.log2 (n - 1) + 1

/-- How many integer keys fall between two powers of two: slot `k` counts the keys above `2^(k-1)` and
up to `2^k`. -/
def countKeys (keys : Array Val) : Array Nat :=
  keys.foldl (fun slots k => match k with
    | .int i =>
      if 1 ≤ i && i.toInt ≤ 0x80000000 then slots.modify (ceilLog i.toInt.toNat) (· + 1) else slots
    | _ => slots) (Array.replicate 33 0)

/-- The best size of the array part: the greatest power of two of which more than half would be in
use.  Answers the size and the number of keys that go there. -/
def bestSize (slots : Array Nat) : Nat × Nat :=
  let total := slots.foldl (· + ·) 0
  let rec go : Nat → Nat → Nat → Nat × Nat → Nat × Nat
    | 0, _, _, best => best
    | fuel + 1, k, below, best =>
      if Nat.pow 2 k > 0 && total > Nat.pow 2 k / 2 then
        let below := below + slots.getD k 0
        go fuel (k + 1) below (if below > Nat.pow 2 k / 2 then (Nat.pow 2 k, below) else best)
      else best
  go 33 0 0 (0, 0)

/-- The last free node below a place. -/
def freeBelow (nodes : Array Node) : Nat → Option Nat
  | 0 => none
  | i + 1 => if (nodes.getD i {}).key.isNil then some i else freeBelow nodes i

/-- The node that links to a given one, looked for from another. -/
def linkTo (nodes : Array Node) (target : Nat) : Nat → Nat → Nat
  | 0, i => i
  | fuel + 1, i => match (nodes.getD i {}).next with
    | some j => if j == target then i else linkTo nodes target fuel j
    | none => i

/-- Adds a key that is not there yet to the hash part, if a node is free. -/
def addNode? (t : Table) (key value : Val) : Option Table :=
  if t.nodes.size = 0 then none
  else
    let main := mainPlace t.nodes key
    let there := t.nodes.getD main {}
    if there.value.isNil then
      -- a removed key keeps its links
      some { t with nodes := t.nodes.setIfInBounds main { there with key, value } }
    else match freeBelow t.nodes t.free with
      | none => none
      | some free =>
        let other := mainPlace t.nodes there.key
        if other != main then
          -- the key that is there does not belong there: it moves to the free node
          let before := linkTo t.nodes main t.nodes.size other
          let nodes := t.nodes.modify before fun n => { n with next := some free }
          let nodes := nodes.setIfInBounds free there
          some { t with nodes := nodes.setIfInBounds main { key, value, next := none }, free }
        else
          let nodes := t.nodes.setIfInBounds free { key, value, next := there.next }
          some { t with nodes := nodes.modify main fun n => { n with next := some free }, free }

/-- Room for some nodes: none, or a power of two. -/
def emptyNodes (n : Nat) : Array Node := if n = 0 then #[] else Array.replicate (Nat.pow 2 (ceilLog n)) {}

/-- Stores an entry in a table that has room for it. -/
def place (t : Table) (key value : Val) : Table :=
  match t.itemIndex? key with
  | some i => { t with items := t.items.setIfInBounds i value }
  | none => (t.addNode? key value).getD t

/-- The same entries with parts of new sizes. -/
def resize (t : Table) (itemCount nodeCount : Nat) : Table :=
  let oldItems := t.items
  let oldNodes := t.nodes
  let kept := oldItems.extract 0 itemCount
  let nodes := emptyNodes nodeCount
  let t := { t with
    items := kept ++ Array.replicate (itemCount - kept.size) .nil
    limit := itemCount, nodes, free := nodes.size }
  let t := (List.range (oldItems.size - itemCount)).foldl (fun t k =>
    let i := itemCount + k
    match oldItems.getD i .nil with
    | .nil => t
    | v => t.place (.ofNat (i + 1)) v) t
  oldNodes.foldl (fun t n => if n.value.isNil then t else t.place n.key n.value) t

/-- New sizes that have room for one key more. -/
def rehash (t : Table) (extra : Val) : Table :=
  let itemKeys := (Array.range t.items.size).filterMap fun i =>
    if (t.items.getD i .nil).isNil then none else some (Val.ofNat (i + 1))
  let nodeKeys := t.nodes.filterMap fun n => if n.value.isNil then none else some n.key
  let keys := (itemKeys ++ nodeKeys).push extra
  let (size, inItems) := bestSize (countKeys keys)
  t.resize size (keys.size - inItems)

/-! ## Writing -/

/-- Stores a value; the key is neither `nil` nor not-a-number. -/
def store (t : Table) (key value : Val) : Table :=
  let key := normalKey key
  match t.itemIndex? key with
  | some i => { t with items := t.items.setIfInBounds i value }
  | none => match t.node? key with
    | some i => { t with nodes := t.nodes.modify i fun n => { n with value } }
    | none =>
      if value.isNil then t
      else match t.addNode? key value with
        | some t => t
        | none => (t.rehash key).place key value

/-- Stores a value under a text. -/
def storeText (t : Table) (name : String) (value : Val) : Table := t.store (.ofString name) value

/-! ## The border -/

/-- An `i` between bounds with an item at `i` and none at `i + 1`, counting from 1. -/
def searchItems (items : Array Val) : Nat → Nat → Nat → Nat
  | 0, low, _ => low
  | fuel + 1, low, high =>
    if high - low > 1 then
      let mid := (low + high) / 2
      if (items.getD (mid - 1) .nil).isNil then searchItems items fuel low mid
      else searchItems items fuel mid high
    else low

/-- Whether there is a value under an integer. -/
def hasInt (t : Table) (i : Nat) : Bool := !(t.get (.ofNat i)).isNil

/-- A border between two integers, of which the first has a value and the second none. -/
def searchInts (t : Table) : Nat → Nat → Nat → Nat
  | 0, low, _ => low
  | fuel + 1, low, high =>
    if high - low > 1 then
      let mid := (low + high) / 2
      if t.hasInt mid then searchInts t fuel mid high else searchInts t fuel low mid
    else low

/-- The greatest integer. -/
def greatest : Nat := 9223372036854775807

/-- A border above an integer that has a value: the integer is doubled, as long as it can be, until one has none. -/
def searchAbove (t : Table) : Nat → Nat → Nat
  | 0, low => low
  | fuel + 1, low =>
    let high := if low ≤ greatest / 2 then 2 * low else greatest
    if !t.hasInt high then searchInts t 64 low high
    else if low ≤ greatest / 2 then searchAbove t fuel high
    else greatest

/-- A border, and the table with a new hint. -/
def border (t : Table) : Nat × Table :=
  let size := t.items.size
  let isNilAt (i : Nat) : Bool := (t.items.getD (i - 1) .nil).isNil
  let isPower := t.limit != size || Nat.pow 2 (ceilLog size) == size
  let inHash (n : Nat) : Nat :=
    if t.nodes.size = 0 || !t.hasInt (n + 1) then n else searchAbove t 63 (max n 1)
  if t.limit > 0 && isNilAt t.limit then
    if t.limit ≥ 2 && !isNilAt (t.limit - 1) then
      let n := t.limit - 1
      (n, if isPower && n > size / 2 then { t with limit := n } else t)
    else
      let n := searchItems t.items 64 0 t.limit
      (n, if isPower && n > size / 2 then { t with limit := n } else t)
  else if t.limit != size then
    if isNilAt (t.limit + 1) then (t.limit, t)
    else if isNilAt size then
      let n := searchItems t.items 64 t.limit size
      (n, { t with limit := n })
    else (inHash size, t)
  else (inHash t.limit, t)

/-! ## Traversal -/

/-- The first entry of the hash part from a place on. -/
def nextNode (t : Table) : Nat → Nat → Option (Val × Val)
  | 0, _ => none
  | fuel + 1, i => match t.nodes[i]? with
    | none => none
    | some n => if n.value.isNil then nextNode t fuel (i + 1) else some (n.key, n.value)

/-- The first entry of the whole table from a place in the array part on. -/
def nextItem (t : Table) : Nat → Nat → Option (Val × Val)
  | 0, _ => nextNode t (t.nodes.size + 1) 0
  | fuel + 1, i => match t.items[i]? with
    | none => nextNode t (t.nodes.size + 1) 0
    | some v => if v.isNil then nextItem t fuel (i + 1) else some (.ofNat (i + 1), v)

/-- The entry after a key, `none` after the last one; fails for a key that was never there. -/
def next? (t : Table) (key : Val) : Option (Option (Val × Val)) :=
  let key := normalKey key
  match key with
  | .nil => some (nextItem t (t.items.size + 1) 0)
  | _ => match t.itemIndex? key with
    | some i => some (nextItem t (t.items.size + 1) (i + 1))
    | none => match t.node? key with
      | some i => some (nextNode t (t.nodes.size + 1) (i + 1))
      | none => none

/-- All entries in the order of a traversal. -/
def entries (t : Table) : List (Val × Val) :=
  let items := t.items.toList.mapIdx fun i v => (Val.ofNat (i + 1), v)
  let nodes := t.nodes.toList.map fun n => (n.key, n.value)
  (items ++ nodes).filter fun e => !e.2.isNil

end Table

end ScriptHost.TableScript
