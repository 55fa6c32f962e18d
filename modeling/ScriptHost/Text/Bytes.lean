import ScriptHost.Text.Utf8

/-!
# Texts as bytes

A text of the table-based language is a sequence of bytes of any value.  It becomes a text of the host
by being read as UTF-8.

* `Bytes` — the sequences; positions count from 0.
* `Bytes.before` — their order, byte by byte.
-/

namespace ScriptHost.Text

/-- A sequence of bytes. -/
abbrev Bytes := ByteArray

namespace Bytes

/-- No bytes. -/
def empty : Bytes := ByteArray.empty

/-- The bytes of a text. -/
def ofString (s : String) : Bytes := s.toUTF8

/-- Bytes read as UTF-8. -/
def toString (b : Bytes) : String := Utf8.decode b.toList

/-- A text is read back from its bytes. -/
theorem toString_ofString (s : String) : (ofString s).toString = s := Utf8.decode_encode s

/-- Bytes one by one. -/
def ofList (bs : List UInt8) : Bytes := ⟨bs.toArray⟩

/-- The byte at a position, and 0 beyond the end. -/
def byteAt (b : Bytes) (i : Nat) : UInt8 := b[i]?.getD 0

/-- The bytes as characters of the same numbers. -/
def chars (b : Bytes) : List Char := b.toList.map fun x => Char.ofNat x.toNat

/-- Characters below 256 as bytes. -/
def ofChars (cs : List Char) : Bytes := ofList (cs.map fun c => c.toNat.toUInt8)

/-- The part from one position up to another. -/
def slice (b : Bytes) (start stop : Nat) : Bytes := b.extract start stop

/-- The part before the first zero byte. -/
def untilZero (b : Bytes) : Bytes := ofList (b.toList.takeWhile (· != 0))

/-- Whether one sequence stands before another from position `i` on, up to which they agree. -/
def beforeFrom (a b : Bytes) (i : Nat) : Nat → Bool
  | 0 => a.size < b.size
  | fuel + 1 =>
    if i < a.size && i < b.size then
      let x := a.byteAt i
      let y := b.byteAt i
      if x == y then beforeFrom a b (i + 1) fuel else x < y
    else a.size < b.size

/-- The order of sequences: by the first byte that differs, and a beginning before the whole. -/
def before (a b : Bytes) : Bool := beforeFrom a b 0 (min a.size b.size)

/-- Whether `needle` stands in `b` at a position. -/
def matchesAt (b needle : Bytes) (i : Nat) : Bool :=
  i + needle.size ≤ b.size && b.slice i (i + needle.size) == needle

/-- The first position from `i` on where `needle` stands. -/
def find? (b needle : Bytes) (i : Nat) : Option Nat :=
  if needle.size = 0 then (if i ≤ b.size then some i else none)
  else go (b.size + 1 - i) i
where
  go : Nat → Nat → Option Nat
    | 0, _ => none
    | fuel + 1, i =>
      if i + needle.size > b.size then none
      else if b.byteAt i == needle.byteAt 0 && b.matchesAt needle i then some i
      else go fuel (i + 1)

/-- The bytes of a piece, `n` times. -/
def replicate (n : Nat) (piece : Bytes) : Bytes :=
  if n = 0 then Bytes.empty
  else
    let half := replicate (n / 2) piece
    if n % 2 = 0 then half ++ half else half ++ half ++ piece

/-- Pieces one after the other. -/
def join (pieces : List Bytes) : Bytes := pieces.foldl (· ++ ·) Bytes.empty

end Bytes

end ScriptHost.Text
