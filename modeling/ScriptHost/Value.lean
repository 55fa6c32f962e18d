import ScriptHost.Decimal.Shortest

/-!
# Host values

Every engine turns what its scripts compute into a `Value` before the host sees it, and turns the
host's `Value`s back when the host passes arguments or registers named items.  A value is a tree: it
borrows nothing from an engine.

* `Value` — the values.
* `Value.ofEntries` — an object; its keys are in increasing order and the last of equal keys wins.
* `Value.display`, `Value.typeName` — the text and the type name shown in messages.
* `Value.same` — equality of values; a function is equal to its own copies only.
-/

namespace ScriptHost

/-- A function of the host that scripts can call.  Two of them are the same function exactly if they
have the same `id`. -/
structure HostFunction where
  name : String
  id : Nat
deriving DecidableEq, Inhabited

/-- A value that crosses the boundary between host and script. -/
inductive Value where
  | undefined
  | null
  | bool (b : Bool)
  | number (x : Float)
  | text (s : String)
  | array (items : List Value)
  /-- An object; the entries are in increasing order of their keys. -/
  | object (entries : List (String × Value))
  /-- A host function exposed to scripts. -/
  | function (f : HostFunction)
  /-- A value of the script that has no host representation, by the name of its type. -/
  | foreign (typeName : String)
deriving Inhabited

namespace Value

/-- Entries in increasing order of keys, with one more; an equal key is replaced. -/
def insertEntry (key : String) (v : Value) : List (String × Value) → List (String × Value)
  | [] => [(key, v)]
  | (k, w) :: rest =>
    if key = k then (key, v) :: rest
    else if key < k then (key, v) :: (k, w) :: rest
    else (k, w) :: insertEntry key v rest

/-- An object with the given entries; of entries with the same key the last counts. -/
def ofEntries (entries : List (String × Value)) : Value :=
  .object (entries.foldl (fun acc e => insertEntry e.1 e.2 acc) [])

def isUndefined : Value → Bool
  | .undefined => true
  | _ => false

/-- The text of a text value. -/
def text? : Value → Option String
  | .text s => some s
  | _ => none

/-- The number of a number value. -/
def number? : Value → Option Float
  | .number x => some x
  | _ => none

/-- The truth value of a boolean. -/
def bool? : Value → Option Bool
  | .bool b => some b
  | _ => none

/-- The entry of an object under a key. -/
def get? (v : Value) (key : String) : Option Value :=
  match v with
  | .object entries => entries.lookup key
  | _ => none

/-- The short type name used in messages. -/
def typeName : Value → String
  | .undefined => "undefined"
  | .null => "null"
  | .bool _ => "boolean"
  | .number _ => "number"
  | .text _ => "string"
  | .array _ => "array"
  | .object _ => "object"
  | .function _ => "function"
  | .foreign name => name

/-- The text of a number: whole numbers below 10^15 as integers, all others with the fewest digits
that read back, never with an exponent. -/
def displayNumber (x : Float) : String :=
  match Decimal.toWhole? x with
  | some i => if i.natAbs < 1000000000000000 then toString i
    else Decimal.renderFloat Decimal.positional "NaN" "inf" "0" x
  | none => Decimal.renderFloat Decimal.positional "NaN" "inf" "0" x

mutual

/-- The text of a value. -/
def display : Value → String
  | .undefined => "undefined"
  | .null => "null"
  | .bool b => if b then "true" else "false"
  | .number x => displayNumber x
  | .text s => s
  | .array items => ",".intercalate (displayAll items)
  | .object _ => "[object Object]"
  | .function f => "function " ++ f.name ++ "()"
  | .foreign name => "[" ++ name ++ "]"

/-- The texts of several values. -/
def displayAll : List Value → List String
  | [] => []
  | v :: vs => display v :: displayAll vs

end

mutual

/-- Equality of values.  Numbers compare as numbers do, so not-a-number differs from itself. -/
def same : Value → Value → Bool
  | .undefined, .undefined => true
  | .null, .null => true
  | .bool a, .bool b => a == b
  | .number x, .number y => x == y
  | .text s, .text t => s == t
  | .array xs, .array ys => sameAll xs ys
  | .object xs, .object ys => sameEntries xs ys
  | .function f, .function g => f.id == g.id
  | .foreign a, .foreign b => a == b
  | _, _ => false

/-- Equality of lists of values. -/
def sameAll : List Value → List Value → Bool
  | [], [] => true
  | x :: xs, y :: ys => same x y && sameAll xs ys
  | _, _ => false

/-- Equality of entries. -/
def sameEntries : List (String × Value) → List (String × Value) → Bool
  | [], [] => true
  | (k, x) :: xs, (l, y) :: ys => k == l && same x y && sameEntries xs ys
  | _, _ => false

end

end Value

end ScriptHost
