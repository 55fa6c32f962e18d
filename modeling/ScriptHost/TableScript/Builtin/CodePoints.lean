import ScriptHost.TableScript.Builtin.Argument

/-!
# Functions on texts of code points

A code point is encoded in one byte or more; the first byte tells how many follow.

* `CodePoints.decode?` — the code point at a position.
* `CodePoints.group` — the functions of the group `utf8`.
-/

namespace ScriptHost.TableScript.Builtin.CodePoints

open Text (Bytes)
open Script

/-! ## Decoding -/

/-- The least code points that need a number of bytes after the first. -/
def leasts : List Nat := [0, 0x80, 0x800, 0x10000, 0x200000, 0x4000000]

/-- The greatest code point that can be encoded. -/
def greatest : Nat := 0x7FFFFFFF

def isContinuation (c : UInt8) : Bool := c &&& 0xC0 == 0x80

/-- Whether a byte that is not the first of a code point stands at a position. -/
def continuesAt (s : Bytes) (i : Nat) : Bool := i < s.size && isContinuation (s.byteAt i)

/-- The number of bytes that follow a first byte. -/
def followers (c : UInt8) : Nat :=
  if c < 0xC0 then 0 else if c < 0xE0 then 1 else if c < 0xF0 then 2 else if c < 0xF8 then 3
  else if c < 0xFC then 4 else if c < 0xFE then 5 else if c < 0xFF then 6 else 7

/-- Whether a code point stands for a character. -/
def isStrict (n : Nat) : Bool := n ≤ 0x10FFFF && !(0xD800 ≤ n && n ≤ 0xDFFF)

/-- The code point at a position, and the position after it. -/
def decode? (s : Bytes) (i : Nat) (strict : Bool) : Option (Nat × Nat) :=
  let c := s.byteAt i
  if c < 0x80 then some (c.toNat, i + 1)
  else
    let count := followers c
    let rest := (List.range count).map fun k => s.byteAt (i + 1 + k)
    if !rest.all isContinuation then none
    else
      let lead := c.toNat % Nat.pow 2 (6 - count)
      let n := rest.foldl (fun n b => 64 * n + b.toNat % 64) lead
      if count = 0 || count > 5 || n > greatest || n < leasts.getD count 0 then none
      else if strict && !isStrict n then none
      else some (n, i + 1 + count)

def invalid : String := "invalid UTF-8 code"

/-- A position, which may count from the end. -/
def place (pos : Int64) (size : Nat) : Int :=
  let pos := pos.toInt
  if pos ≥ 0 then pos else if -pos > size then 0 else size + pos + 1

/-! ## Functions -/

/-- Counts code points up to a position; at a wrong one the position is the answer. -/
def countFrom (s : Bytes) (strict : Bool) (last : Int) : Nat → Nat → Nat → Array Val
  | 0, _, n => #[.ofNat n]
  | fuel + 1, i, n =>
    if i > last then #[.ofNat n]
    else match decode? s i strict with
      | some (_, next) => countFrom s strict last fuel next (n + 1)
      | none => #[.nil, .ofNat (i + 1)]

def length (args : Array Val) : Script (Array Val) := do
  let s ← textArg args 0
  let first := place (← integerOr args 1 1) s.size
  let last := place (← integerOr args 2 (-1)) s.size
  require (1 ≤ first && first - 1 ≤ s.size) 1 "initial position out of bounds"
  require (last - 1 < s.size) 2 "final position out of bounds"
  let strict := !(args.getD 3 .nil).isTrue
  return countFrom s strict (last - 1) (s.size + 1) (first - 1).toNat 0

/-- The code points that begin before a position. -/
def pointsFrom (s : Bytes) (strict : Bool) (stop : Nat) :
    Nat → Nat → Array Val → Script (Array Val)
  | 0, _, vs => return vs
  | fuel + 1, i, vs => do
    if i ≥ stop then return vs
    match decode? s i strict with
    | some (n, next) => pointsFrom s strict stop fuel next (vs.push (.ofNat n))
    | none => failCall invalid

def points (args : Array Val) : Script (Array Val) := do
  let s ← textArg args 0
  let first ← integerOr args 1 1
  let start := place first s.size
  let stop := place (← integerOr args 2 (.ofInt start)) s.size
  let strict := !(args.getD 3 .nil).isTrue
  require (start ≥ 1) 1 "out of bounds"
  require (stop ≤ s.size) 2 "out of bounds"
  if start > stop then return #[]
  pointsFrom s strict stop.toNat (s.size + 1) (start - 1).toNat #[]

/-- The text of code points. -/
def ofPoints (args : Array Val) : Script (Array Val) := do
  let mut text := Bytes.empty
  for i in [0:args.size] do
    let n := (← integerArg args i).toUInt64.toNat
    require (n ≤ greatest) i "value out of range"
    text := text ++ Lexer.encodePoint n
  return #[.str text]

/-- The start of the code point that a position lies in, looked for backwards. -/
def startBefore (s : Bytes) : Nat → Nat
  | 0 => 0
  | i + 1 => if continuesAt s (i + 1) then startBefore s i else i + 1

/-- The start of the next code point. -/
def startAfter (s : Bytes) : Nat → Nat → Nat
  | 0, i => i
  | fuel + 1, i => if continuesAt s i then startAfter s fuel (i + 1) else i

/-- Goes back by a number of code points; answers how many were left. -/
def goBack (s : Bytes) : Nat → Nat → Nat × Nat
  | 0, i => (0, i)
  | n + 1, i => if i = 0 then (n + 1, 0) else goBack s n (startBefore s (i - 1))

/-- Goes forward by a number of code points; answers how many were left. -/
def goForward (s : Bytes) : Nat → Nat → Nat × Nat
  | 0, i => (0, i)
  | n + 1, i =>
    if i ≥ s.size then (n + 1, i) else goForward s n (startAfter s (s.size + 1) (i + 1))

/-- The position of a code point that is counted from a given position. -/
def offset (args : Array Val) : Script (Array Val) := do
  let s ← textArg args 0
  let n := (← integerArg args 1).toInt
  let start := place (← integerOr args 2 (if n > 0 then 1 else .ofNat (s.size + 1))) s.size
  require (1 ≤ start && start - 1 ≤ s.size) 2 "position out of bounds"
  let i := (start - 1).toNat
  if n = 0 then return #[.ofNat (startBefore s i + 1)]
  if continuesAt s i then failCall "initial position is a continuation byte"
  -- positions far outside need not be counted one by one
  let bounded (k : Int) : Nat := min k.toNat (s.size + 2)
  let (left, found) := if n < 0 then goBack s (bounded (-n)) i else goForward s (bounded (n - 1)) i
  return #[if left = 0 then .ofNat (found + 1) else .nil]

/-- The next code point with its position. -/
def nextPoint (strict : Bool) (args : Array Val) : Script (Array Val) := do
  let s ← textArg args 0
  let i := ((args.getD 1 .nil).toInteger?.getD 0).toUInt64.toNat
  let i := if i < s.size then startAfter s (s.size + 1) i else i
  if i ≥ s.size then return #[]
  match decode? s i strict with
  | some (n, next) =>
    if continuesAt s next then failCall invalid
    return #[.ofNat (i + 1), .ofNat n]
  | none => failCall invalid

/-- Functions that answer one code point after the other. -/
def answered : List Native := [
  ⟨"codes_next", fun _ args => nextPoint true args⟩,
  ⟨"codes_next", fun _ args => nextPoint false args⟩]

/-- The functions on code points; `index` is the number of the first function of `answered`. -/
def group (index : Nat) : FunctionGroup where
  name := "utf8"
  natives := [
    ⟨"offset", fun _ args => offset args⟩,
    ⟨"codepoint", fun _ args => points args⟩,
    ⟨"char", fun _ args => ofPoints args⟩,
    ⟨"len", fun _ args => length args⟩,
    ⟨"codes", fun _ args => do
      let s ← textArg args 0
      require (!continuesAt s 0) 0 invalid
      let lax := (args.getD 1 .nil).isTrue
      return #[.function (if lax then index + 1 else index), args.getD 0 .nil, .int 0]⟩]
  constants := [("charpattern", .str (.ofList [
    0x5B, 0x00, 0x2D, 0x7F, 0xC2, 0x2D, 0xFD, 0x5D, 0x5B, 0x80, 0x2D, 0xBF, 0x5D, 0x2A]))]

end ScriptHost.TableScript.Builtin.CodePoints
