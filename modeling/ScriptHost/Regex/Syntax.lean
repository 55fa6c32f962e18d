import ScriptHost.Text.Case
import ScriptHost.Text.Utf16

/-!
# Regular expressions: syntax trees

* `CharSet` — sets of code points as ranges.
* `Node` — the syntax of an expression; sequences and alternatives are binary.
* `Flags`, `Regex` — a complete expression: the tree, its groups and its flags.
-/

namespace ScriptHost

namespace Regex

open Text

/-- Code points by ranges, or all others. -/
structure CharSet where
  inverted : Bool
  ranges : List (Nat × Nat)
deriving Inhabited

/-- Whether some range has a code point. -/
def rangesContain (ranges : List (Nat × Nat)) (c : Nat) : Bool :=
  ranges.any fun (a, b) => a ≤ c && c ≤ b

/-- The ranges between and around ranges that are in increasing order. -/
def gaps (from0 : Nat) : List (Nat × Nat) → List (Nat × Nat)
  | [] => [(from0, 0x10FFFF)]
  | (a, b) :: rest => (if from0 < a then [(from0, a - 1)] else []) ++ gaps (b + 1) rest

def digitRanges : List (Nat × Nat) := [(0x30, 0x39)]

def wordRanges : List (Nat × Nat) := [(0x30, 0x39), (0x41, 0x5A), (0x5F, 0x5F), (0x61, 0x7A)]

def spaceRanges : List (Nat × Nat) :=
  [(0x09, 0x0D), (0x20, 0x20), (0xA0, 0xA0), (0x1680, 0x1680), (0x2000, 0x200A), (0x2028, 0x2029),
    (0x202F, 0x202F), (0x205F, 0x205F), (0x3000, 0x3000), (0xFEFF, 0xFEFF)]

/-- The syntax of an expression. -/
inductive Node where
  | empty
  | char (code : Nat)
  | set (s : CharSet)
  /-- Any code point. -/
  | any
  /-- Any code point that ends no line. -/
  | dot
  | lineStart
  | lineEnd
  | wordBoundary (negated : Bool)
  | seq (a b : Node)
  | alt (a b : Node)
  /-- A capturing group. -/
  | group (index : Nat) (body : Node)
  | backReference (index : Nat)
  | look (behind negated : Bool) (body : Node)
  /-- A repetition; each round forgets the captures from `first` up to, and without, `last`. -/
  | rep (body : Node) (min : Nat) (max : Option Nat) (greedy : Bool) (first last : Nat)
deriving Inhabited

/-- The flags of an expression. -/
structure Flags where
  hasIndices : Bool := false
  global : Bool := false
  ignoreCase : Bool := false
  multiline : Bool := false
  dotAll : Bool := false
  unicode : Bool := false
  sticky : Bool := false
deriving Inhabited, DecidableEq

/-- Sets one flag; a flag must not be given twice. -/
def Flags.add? (f : Flags) : Char → Option Flags
  | 'd' => if f.hasIndices then none else some { f with hasIndices := true }
  | 'g' => if f.global then none else some { f with global := true }
  | 'i' => if f.ignoreCase then none else some { f with ignoreCase := true }
  | 'm' => if f.multiline then none else some { f with multiline := true }
  | 's' => if f.dotAll then none else some { f with dotAll := true }
  | 'u' => if f.unicode then none else some { f with unicode := true }
  | 'y' => if f.sticky then none else some { f with sticky := true }
  | _ => none

/-- Reads flags. -/
def Flags.read? (s : String) : Option Flags :=
  s.toList.foldlM Flags.add? {}

/-- The text of flags, in alphabetical order. -/
def Flags.text (f : Flags) : String :=
  (if f.hasIndices then "d" else "") ++ (if f.global then "g" else "")
    ++ (if f.ignoreCase then "i" else "") ++ (if f.multiline then "m" else "")
    ++ (if f.dotAll then "s" else "") ++ (if f.unicode then "u" else "")
    ++ (if f.sticky then "y" else "")

/-- The form under which code points are compared when case is ignored. -/
def canonical (unicode : Bool) (c : Nat) : Nat :=
  if c < 0x80 then
    if unicode then Case.lowerOf c else Case.upperOf c
  else if unicode then Case.lowerOf (Case.upperOf c)
  else match Case.expandUpper c with
    | [d] => if d < 0x80 then c else d
    | _ => c

/-- The text of a pattern that can stand between slashes: slashes outside classes and line ends are
escaped, from a position on. -/
def escapedFrom (p : Units) : Nat → Nat → Bool → Units → Units
  | 0, _, _, out => out
  | fuel + 1, i, inClass, out =>
    if i ≥ p.size then out
    else
      let c := p.at0 i
      let pair (d : UInt16) : Units := (out.push 0x5C).push d
      if c == 0x5C then
        if i + 1 < p.size then
          escapedFrom p fuel (i + 2) inClass ((out.push c).push (p.at0 (i + 1)))
        else out.push c
      else if c == 0x5D then escapedFrom p fuel (i + 1) false (out.push c)
      else if c == 0x5B && !inClass then
        if i + 1 < p.size && p.at0 (i + 1) == 0x5D then
          escapedFrom p fuel (i + 2) true ((out.push c).push 0x5D)
        else escapedFrom p fuel (i + 1) true (out.push c)
      else if c == 0x0A then escapedFrom p fuel (i + 1) inClass (pair 0x6E)
      else if c == 0x0D then escapedFrom p fuel (i + 1) inClass (pair 0x72)
      else if c == 0x2F && !inClass then escapedFrom p fuel (i + 1) inClass (pair 0x2F)
      else escapedFrom p fuel (i + 1) inClass (out.push c)

/-- The text of a pattern that can stand between slashes. -/
def escapedSource (p : Units) : Units :=
  if p.isEmpty then Units.ofString "(?:)" else escapedFrom p p.size 0 false #[]

end Regex

/-- A regular expression. -/
structure Regex where
  root : Regex.Node
  /-- The number of groups, the whole match included. -/
  groupCount : Nat
  /-- The names of named groups and their indices. -/
  names : List (String × Nat)
  flags : Regex.Flags
deriving Inhabited

end ScriptHost
