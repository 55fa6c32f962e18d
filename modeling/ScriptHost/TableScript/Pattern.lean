import ScriptHost.Text.Bytes

/-!
# Patterns of texts

A pattern is matched from left to right with backtracking.  Its items are characters, classes such as
`%a`, sets in brackets, captures in parentheses, and the marks `*`, `+`, `-` and `?` after an item.

* `Pattern.matchAt` — where a match that begins at a position ends, with its captures.
* `Pattern.find?` — the first match from a position on.
* `Pattern.Found.capture` — what a capture holds.
-/

namespace ScriptHost.TableScript

open Text (Bytes)

namespace Pattern

/-! ## Captures -/

/-- How far a capture extends. -/
inductive Extent where
  /-- Its end has not been found yet. -/
  | unfinished
  /-- It stands for its position only. -/
  | position
  | length (n : Nat)
deriving DecidableEq, Inhabited

/-- A part of the text that a pattern captures. -/
structure Capture where
  start : Nat
  extent : Extent
deriving Inhabited

/-- The greatest number of captures. -/
def captureLimit : Nat := 32

/-- The greatest number of nested attempts. -/
def depthLimit : Nat := 200

/-- What matching answers: the end of the match and its captures. -/
abbrev Answer := Except String (Option (Nat × Array Capture))

/-! ## Classes -/

/-- The mark of classes and of plain characters that would mean something else. -/
def escape : UInt8 := 37

def isLetter (c : UInt8) : Bool := (65 ≤ c && c ≤ 90) || (97 ≤ c && c ≤ 122)

def isDigit (c : UInt8) : Bool := 48 ≤ c && c ≤ 57

def isVisible (c : UInt8) : Bool := 33 ≤ c && c ≤ 126

def isControl (c : UInt8) : Bool := c < 32 || c == 127

def isSpace (c : UInt8) : Bool := c == 32 || (9 ≤ c && c ≤ 13)

def isUpper (c : UInt8) : Bool := 65 ≤ c && c ≤ 90

def isLower (c : UInt8) : Bool := 97 ≤ c && c ≤ 122

def isHexDigit (c : UInt8) : Bool := isDigit c || (65 ≤ c && c ≤ 70) || (97 ≤ c && c ≤ 102)

/-- The small letter of a letter. -/
def lower (c : UInt8) : UInt8 := if isUpper c then c + 32 else c

/-- The capital letter of a letter. -/
def upper (c : UInt8) : UInt8 := if isLower c then c - 32 else c

/-- The class of a small letter. -/
def classOf? (name : UInt8) : Option (UInt8 → Bool) :=
  match Char.ofNat name.toNat with
  | 'a' => some isLetter
  | 'c' => some isControl
  | 'd' => some isDigit
  | 'g' => some isVisible
  | 'l' => some isLower
  | 'p' => some fun c => isVisible c && !isLetter c && !isDigit c
  | 's' => some isSpace
  | 'u' => some isUpper
  | 'w' => some fun c => isLetter c || isDigit c
  | 'x' => some isHexDigit
  | _ => none

/-- Whether a byte is in the class that follows the mark; a capital letter stands for all others. -/
def inClass (c name : UInt8) : Bool :=
  match classOf? (lower name) with
  | some holds => holds c != isUpper name
  | none => name == c

/-! ## Items -/

/-- The end of a set, looked for from a position inside it on. -/
def setEnd (p : Bytes) : Nat → Nat → Except String Nat
  | 0, _ => .error "malformed pattern (missing ']')"
  | fuel + 1, i =>
    if i ≥ p.size then .error "malformed pattern (missing ']')"
    else
      let next := if p.byteAt i == escape then i + 2 else i + 1
      -- the first byte of a set is never its end
      if p.byteAt next == 93 && next < p.size then .ok (next + 1)
      else setEnd p fuel next

/-- The end of the item at a position. -/
def itemEnd (p : Bytes) (i : Nat) : Except String Nat :=
  let c := p.byteAt i
  if c == escape then
    if i + 1 ≥ p.size then .error "malformed pattern (ends with '%')" else .ok (i + 2)
  else if c == 91 then
    setEnd p (p.size + 1) (if p.byteAt (i + 1) == 94 then i + 2 else i + 1)
  else .ok (i + 1)

/-- Whether a byte is one of a set's from a position on; the set's closing bracket stands at `stop`. -/
def inSetFrom (p : Bytes) (c : UInt8) (stop : Nat) : Nat → Nat → Bool
  | 0, _ => false
  | fuel + 1, i =>
    if i ≥ stop then false
    else if p.byteAt i == escape then
      inClass c (p.byteAt (i + 1)) || inSetFrom p c stop fuel (i + 2)
    else if p.byteAt (i + 1) == 45 && i + 2 < stop then
      (p.byteAt i ≤ c && c ≤ p.byteAt (i + 2)) || inSetFrom p c stop fuel (i + 3)
    else p.byteAt i == c || inSetFrom p c stop fuel (i + 1)

/-- Whether a byte is one of the set whose brackets stand at two positions. -/
def inSet (p : Bytes) (c : UInt8) (start stop : Nat) : Bool :=
  if p.byteAt (start + 1) == 94 then !inSetFrom p c stop p.size (start + 2)
  else inSetFrom p c stop p.size (start + 1)

/-- Whether the byte of the text at `s` is one that the item at `i` stands for. -/
def matchesItem (text p : Bytes) (s i stop : Nat) : Bool :=
  if s ≥ text.size then false
  else
    let c := text.byteAt s
    match Char.ofNat (p.byteAt i).toNat with
    | '.' => true
    | '%' => inClass c (p.byteAt (i + 1))
    | '[' => inSet p c i (stop - 1)
    | _ => p.byteAt i == c

/-! ## Matching -/

/-- The end of a balanced part that begins at a position. -/
def balancedEnd (text : Bytes) (opening closing : UInt8) : Nat → Nat → Nat → Option Nat
  | 0, _, _ => none
  | fuel + 1, s, nested =>
    if s ≥ text.size then none
    else
      let c := text.byteAt s
      if c == closing then
        if nested = 1 then some (s + 1) else balancedEnd text opening closing fuel (s + 1) (nested - 1)
      else balancedEnd text opening closing fuel (s + 1) (if c == opening then nested + 1 else nested)

/-- The latest capture without an end. -/
def openCapture? (captures : Array Capture) : Option Nat :=
  (List.range captures.size).reverse.find? fun i =>
    (captures.getD i default).extent = .unfinished

/-- The number of bytes from `s` on that an item stands for, added to `n`. -/
def countItems (text p : Bytes) (i stop : Nat) : Nat → Nat → Nat → Nat
  | 0, _, n => n
  | fuel + 1, s, n =>
    if matchesItem text p s i stop then countItems text p i stop fuel (s + 1) (n + 1) else n

section

variable (text p : Bytes)
-- matches the rest of the pattern, one level deeper
variable (deeper : Nat → Nat → Array Capture → Answer)

/-- As many bytes as possible, then the rest. -/
def longest (s rest : Nat) (captures : Array Capture) : Nat → Answer
  | 0 => deeper s rest captures
  | n + 1 => do
    match ← deeper (s + n + 1) rest captures with
    | some found => return some found
    | none => longest s rest captures n

/-- As few bytes as possible, then the rest. -/
def fewest (i stop : Nat) (captures : Array Capture) : Nat → Nat → Answer
  | 0, _ => return none
  | fuel + 1, s => do
    match ← deeper s (stop + 1) captures with
    | some found => return some found
    | none =>
      if matchesItem text p s i stop then fewest i stop captures fuel (s + 1) else return none

/-- Matches the pattern from `i` on against the text from `s` on, going on as long as no choice is to be
made. -/
def matchFrom : Nat → Nat → Nat → Array Capture → Answer
  | 0, _, _, _ => return none
  | fuel + 1, s, i, captures => do
    if i ≥ p.size then return some (s, captures)
    let c := Char.ofNat (p.byteAt i).toNat
    let d := Char.ofNat (p.byteAt (i + 1)).toNat
    if c == '(' then
      if captures.size ≥ captureLimit then throw "too many captures"
      if d == ')' then deeper s (i + 2) (captures.push ⟨s, .position⟩)
      else deeper s (i + 1) (captures.push ⟨s, .unfinished⟩)
    else if c == ')' then
      match openCapture? captures with
      | none => throw "invalid pattern capture"
      | some l =>
        deeper s (i + 1) (captures.modify l fun k => { k with extent := .length (s - k.start) })
    else if c == '$' && i + 1 = p.size then
      return if s = text.size then some (s, captures) else none
    else if c == '%' && d == 'b' then
      if i + 3 ≥ p.size then throw "malformed pattern (missing arguments to '%b')"
      if text.byteAt s != p.byteAt (i + 2) then return none
      match balancedEnd text (p.byteAt (i + 2)) (p.byteAt (i + 3)) text.size (s + 1) 1 with
      | some e => matchFrom fuel e (i + 4) captures
      | none => return none
    else if c == '%' && d == 'f' then
      if p.byteAt (i + 2) != 91 then throw "missing '[' after '%f' in pattern"
      let stop ← itemEnd p (i + 2)
      let before := if s = 0 then 0 else text.byteAt (s - 1)
      if !inSet p before (i + 2) (stop - 1) && inSet p (text.byteAt s) (i + 2) (stop - 1) then
        matchFrom fuel s stop captures
      else return none
    else if c == '%' && d.isDigit then
      let l := d.toNat - 48
      match if l = 0 then Extent.unfinished else (captures.getD (l - 1) ⟨0, .unfinished⟩).extent with
      | .unfinished => throw ("invalid capture index %" ++ toString l)
      | .position => return none
      | .length n =>
        let start := (captures.getD (l - 1) default).start
        if text.matchesAt (text.slice start (start + n)) s then matchFrom fuel (s + n) (i + 2) captures
        else return none
    else
      let stop ← itemEnd p i
      let mark := if stop < p.size then Char.ofNat (p.byteAt stop).toNat else ' '
      if !matchesItem text p s i stop then
        if mark == '?' || mark == '*' || mark == '-' then matchFrom fuel s (stop + 1) captures
        else return none
      else match mark with
        | '?' =>
          match ← deeper (s + 1) (stop + 1) captures with
          | some found => return some found
          | none => matchFrom fuel s (stop + 1) captures
        | '+' =>
          longest deeper (s + 1) (stop + 1) captures (countItems text p i stop text.size (s + 1) 0)
        | '*' => longest deeper s (stop + 1) captures (countItems text p i stop text.size s 0)
        | '-' => fewest text p deeper i stop captures (text.size + 1) s
        | _ => matchFrom fuel (s + 1) stop captures

end

/-- Matches with so many nested attempts left. -/
def matchNested (text p : Bytes) : Nat → Nat → Nat → Array Capture → Answer
  | 0, _, _, _ => .error "pattern too complex"
  | depth + 1, s, i, captures =>
    matchFrom text p (matchNested text p depth) (p.size + 1) s i captures

/-- A match. -/
structure Found where
  start : Nat
  stop : Nat
  captures : Array Capture
deriving Inhabited

/-- The match that begins at `s`; the pattern is read from `i` on. -/
def matchAt (text p : Bytes) (s i : Nat) : Except String (Option Found) := do
  match ← matchNested text p depthLimit s i #[] with
  | some (stop, captures) => return some ⟨s, stop, captures⟩
  | none => return none

/-- Whether a pattern matches only at the position where the search begins. -/
def isAnchored (p : Bytes) : Bool := p.byteAt 0 == 94 && p.size > 0

/-- The first match among `fuel` positions from `s` on. -/
def findFrom (text p : Bytes) (i : Nat) : Nat → Nat → Except String (Option Found)
  | 0, _ => return none
  | fuel + 1, s => do
    match ← matchAt text p s i with
    | some found => return some found
    | none => findFrom text p i fuel (s + 1)

/-- The first match from `s` on. -/
def find? (text p : Bytes) (s : Nat) : Except String (Option Found) :=
  if isAnchored p then matchAt text p s 1
  else findFrom text p 0 (text.size + 1 - s) s

/-- Whether a pattern has none of the characters that mean something. -/
def isPlain (p : Bytes) : Bool :=
  p.toList.all fun c => !("^$*+?.([%-".toList.contains (Char.ofNat c.toNat))

/-- What a capture holds: a part of the text, or a position counted from 1. -/
inductive Held where
  | part (s : Bytes)
  | place (n : Nat)

/-- What a capture holds; a match without captures counts as one. -/
def Found.capture (found : Found) (text : Bytes) (l : Nat) : Except String Held :=
  match found.captures[l]? with
  | none =>
    if l = 0 then .ok (.part (text.slice found.start found.stop))
    else .error ("invalid capture index %" ++ toString (l + 1) ++ " in replacement string")
  | some k => match k.extent with
    | .unfinished => .error "unfinished capture"
    | .position => .ok (.place (k.start + 1))
    | .length n => .ok (.part (text.slice k.start (k.start + n)))

/-- What all captures hold. -/
def Found.all (found : Found) (text : Bytes) (wholeIfNone : Bool) : Except String (List Held) :=
  let count := if found.captures.isEmpty && wholeIfNone then 1 else found.captures.size
  (List.range count).mapM (found.capture text)

end Pattern

end ScriptHost.TableScript
