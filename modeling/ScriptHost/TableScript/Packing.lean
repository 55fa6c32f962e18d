import ScriptHost.TableScript.Number

/-!
# Values in binary form

A format describes the layout of values in a sequence of bytes: one letter for each value, with sizes
after some letters and letters for the order of bytes and for alignment.

* `Layout` — the order of bytes and the alignment.
* `Item` — what a format asks for.
* `Layout.next` — the next item of a format.
* `integerBytes`, `readInteger` — integers of some size.
-/

namespace ScriptHost.TableScript.Packing

open Text (Bytes)

/-- The order of bytes and the greatest alignment. -/
structure Layout where
  littleEndian : Bool := true
  alignment : Nat := 1
deriving Inhabited

/-- The kinds of items. -/
inductive Kind where
  | signed
  | unsigned
  | single
  | double
  /-- A text of fixed length. -/
  | fixedText
  /-- A text after its length. -/
  | countedText
  /-- A text before a zero byte. -/
  | endedText
  | padding
  /-- Alignment as the next letter asks for it. -/
  | alignmentOnly
  /-- Nothing but a change of the layout. -/
  | nothing
deriving DecidableEq, Inhabited

/-- What a format asks for: the kind, the size, and the number of bytes before it. -/
structure Item where
  kind : Kind
  size : Nat
  before : Nat
deriving Inhabited

/-- Why a format is wrong; some faults are faults of the argument that holds it. -/
inductive Fault where
  | format (message : String)
  | argument (message : String)

/-- The greatest size of an integer. -/
def sizeLimit : Nat := 16

/-- The size of the machine's integers. -/
def wordSize : Nat := 8

/-- The greatest size that a format can name. -/
def numberLimit : Nat := (2147483647 - 9) / 10

/-- A number in a format. -/
def readNumber : List Char → Nat → Nat × List Char
  | c :: rest, n =>
    if c.isDigit then
      let n := 10 * n + (c.toNat - 48)
      if n ≤ numberLimit then readNumber rest n else (n, rest)
    else (n, c :: rest)
  | [], n => (n, [])

/-- A number that may be missing. -/
def number? (format : List Char) : Option Nat × List Char :=
  match format with
  | c :: _ =>
    if c.isDigit then
      let (n, rest) := readNumber format 0
      (some n, rest)
    else (none, format)
  | [] => (none, [])

/-- The size of an integer. -/
def integerSize (format : List Char) (missing : Nat) : Except Fault (Nat × List Char) :=
  let (n, rest) := number? format
  let n := n.getD missing
  if n > sizeLimit || n = 0 then
    .error (.format ("integral size (" ++ toString n ++ ") out of limits [1,"
      ++ toString sizeLimit ++ "]"))
  else .ok (n, rest)

/-- A letter of a format with what belongs to it. -/
def letter (l : Layout) (c : Char) (rest : List Char) :
    Except Fault (Kind × Nat × Layout × List Char) := do
  let plain (kind : Kind) (size : Nat) : Except Fault (Kind × Nat × Layout × List Char) :=
    return (kind, size, l, rest)
  match c with
  | 'b' => plain .signed 1
  | 'B' => plain .unsigned 1
  | 'h' => plain .signed 2
  | 'H' => plain .unsigned 2
  | 'l' | 'j' => plain .signed 8
  | 'L' | 'J' | 'T' => plain .unsigned 8
  | 'f' => plain .single 4
  | 'n' | 'd' => plain .double 8
  | 'i' =>
    let (size, rest) ← integerSize rest 4
    return (.signed, size, l, rest)
  | 'I' =>
    let (size, rest) ← integerSize rest 4
    return (.unsigned, size, l, rest)
  | 's' =>
    let (size, rest) ← integerSize rest 8
    return (.countedText, size, l, rest)
  | 'c' =>
    match number? rest with
    | (some size, rest) => return (.fixedText, size, l, rest)
    | (none, _) => throw (.format "missing size for format option 'c'")
  | 'z' => plain .endedText 0
  | 'x' => plain .padding 1
  | 'X' => plain .alignmentOnly 0
  | ' ' => plain .nothing 0
  | '<' | '=' => return (.nothing, 0, { l with littleEndian := true }, rest)
  | '>' => return (.nothing, 0, { l with littleEndian := false }, rest)
  | '!' =>
    let (alignment, rest) ← integerSize rest 8
    return (.nothing, 0, { l with alignment }, rest)
  | _ => throw (.format ("invalid format option '" ++ String.ofList [c] ++ "'"))

/-- The next item of a format at a position, given its first letter. -/
def Layout.next (l : Layout) (position : Nat) (c : Char) (rest : List Char) :
    Except Fault (Item × Layout × List Char) := do
  let (kind, size, l, rest) ← letter l c rest
  let (align, l, rest) ← match kind with
    | .alignmentOnly =>
      match rest with
      | [] => throw (.argument "invalid next option for option 'X'")
      | c :: more => do
        let (kind, align, l, rest) ← letter l c more
        if kind = .fixedText || align = 0 then
          throw (.argument "invalid next option for option 'X'")
        pure (align, l, rest)
    | _ => pure (size, l, rest)
  if align ≤ 1 || kind = .fixedText then return (⟨kind, size, 0⟩, l, rest)
  let align := min align l.alignment
  if !align.isPowerOfTwo then
    throw (.argument "format asks for alignment not power of 2")
  return (⟨kind, size, (align - position % align) % align⟩, l, rest)

/-! ## Integers -/

/-- The bytes of an integer. -/
def integerBytes (l : Layout) (n : Int) (size : Nat) : Bytes :=
  let low := (List.range size).map fun i => (n / Int.pow 256 i % 256).toNat.toUInt8
  .ofList (if l.littleEndian then low else low.reverse)

/-- The number of an integer's bytes, the least significant one first. -/
def naturalOf (bs : List UInt8) : Nat := bs.foldr (fun b n => 256 * n + b.toNat) 0

/-- The integer of some bytes, if it is in range. -/
def readInteger (l : Layout) (bs : Bytes) (signed : Bool) : Option Int64 :=
  let low := if l.littleEndian then bs.toList else bs.toList.reverse
  let n : Nat := naturalOf (low.take wordSize)
  let size := low.length
  if size < wordSize then
    let n : Int := n
    some (.ofInt (if signed && n ≥ Int.pow 2 (8 * size - 1) then n - Int.pow 2 (8 * size) else n))
  else
    let i := Int64.ofInt n
    let fill : UInt8 := if signed && i < 0 then 255 else 0
    if (low.drop wordSize).all (· == fill) then some i else none

/-! ## Floats -/

/-- The bytes of a double. -/
def doubleBytes (l : Layout) (x : Float) : Bytes := integerBytes l (x.toBits.toNat : Int) 8

/-- The bytes of the nearest number of half the size. -/
def singleBytes (l : Layout) (x : Float) : Bytes :=
  integerBytes l (x.toFloat32.toBits.toNat : Int) 4

def readDouble (l : Layout) (bs : Bytes) : Float :=
  let low := if l.littleEndian then bs.toList else bs.toList.reverse
  Float.ofBits (.ofNat (naturalOf low))

def readSingle (l : Layout) (bs : Bytes) : Float :=
  let low := if l.littleEndian then bs.toList else bs.toList.reverse
  (Float32.ofBits (.ofNat (naturalOf low))).toFloat

end ScriptHost.TableScript.Packing
