import ScriptHost.Regex.Syntax

/-!
# Regular expressions: matching

A matcher tries the ways in which a node can match at a position, in their order, and hands each one
to the continuation until that succeeds.  The recursion follows the tree; a repetition has a counter
that starts above the number of rounds that can still make progress.

* `Node.run` — all ways of a node, in order.
* `Regex.matchAt`, `Regex.search` — the captures of a match at, or from, a position.
-/

namespace ScriptHost.Regex

open Text

/-- The bounds of the groups: start and end of group `i` at `2 * i` and `2 * i + 1`. -/
abbrev Captures := Array (Option Nat)

/-- What a match is made against. -/
structure Subject where
  input : Units
  flags : Flags

/-- What follows a node: it takes the position and the captures so far. -/
abbrev Continuation := Nat → Captures → Option (Nat × Captures)

namespace Subject

variable (s : Subject)

/-- The code point before or after a position, and the position beyond it. -/
def read (back : Bool) (pos : Nat) : Option (Nat × Nat) :=
  if back then
    if pos == 0 then none
    else
      let u := s.input.at0 (pos - 1)
      if s.flags.unicode && Units.isLow u && pos ≥ 2 && Units.isHigh (s.input.at0 (pos - 2)) then
        some ((s.input.codeAt (pos - 2)).1, pos - 2)
      else some (u.toNat, pos - 1)
  else if pos < s.input.size then
    if s.flags.unicode then
      let (c, n) := s.input.codeAt pos
      some (c, pos + n)
    else some ((s.input.at0 pos).toNat, pos + 1)
  else none

/-- The form in which a code point is compared. -/
def fold (c : Nat) : Nat := if s.flags.ignoreCase then canonical s.flags.unicode c else c

/-- Whether a code point ends a line. -/
def isLineEnd (c : Nat) : Bool := c == 0x0A || c == 0x0D || c == 0x2028 || c == 0x2029

/-- Whether a set has a code point, or one that differs from it in case. -/
def inSet (set : CharSet) (c : Nat) : Bool :=
  let found := rangesContain set.ranges c || (s.flags.ignoreCase &&
    (let f := s.fold c
     [Case.lowerOf c, Case.upperOf c, Case.lowerOf f, Case.upperOf f, f].any fun d =>
       s.fold d == f && rangesContain set.ranges d))
  found != set.inverted

/-- Whether a letter, digit or underscore stands on the given side of a position. -/
def isWordAt (back : Bool) (pos : Nat) : Bool :=
  match s.read back pos with
  | some (c, _) => rangesContain wordRanges c
  | none => false

/-- The position beyond the one code point that a node takes, for nodes that take one. -/
def single? (back : Bool) (test : Nat → Bool) (pos : Nat) : Option Nat :=
  match s.read back pos with
  | some (c, next) => if test c then some next else none
  | none => none

/-- Whether the text between two positions stands before or after a position too; the position
beyond it. -/
def repeated? (back : Bool) : Nat → Nat → Nat → Nat → Option Nat
  | 0, _, _, pos => some pos
  | fuel + 1, lo, hi, pos =>
    if lo ≥ hi then some pos
    else match s.read back (if back then hi else lo), s.read back pos with
      | some (c, next), some (d, pos) =>
        if s.fold c == s.fold d then
          if back then repeated? back fuel lo next pos else repeated? back fuel next hi pos
        else none
      | _, _ => none

end Subject

/-- The code points that a node takes, if it takes exactly one. -/
def Node.test? (s : Subject) : Node → Option (Nat → Bool)
  | .char c => some fun d => s.fold d == s.fold c
  | .set cs => some (s.inSet cs)
  | .any => some fun _ => true
  | .dot => some fun c => !Subject.isLineEnd c
  | _ => none

/-- Tries a continuation at each of some positions. -/
def tryEach (caps : Captures) (k : Continuation) : List Nat → Option (Nat × Captures)
  | [] => none
  | p :: rest => match k p caps with
    | some r => some r
    | none => tryEach caps k rest

/-- The positions after 0, 1, … rounds of taking one code point, the last first. -/
def advances (next : Nat → Option Nat) : Nat → Nat → List Nat → List Nat
  | 0, p, acc => p :: acc
  | fuel + 1, p, acc => match next p with
    | some q => advances next fuel q (p :: acc)
    | none => p :: acc

/-- Takes code points until the continuation succeeds. -/
def untilMatch (next : Nat → Option Nat) (caps : Captures) (k : Continuation) :
    Nat → Nat → Option (Nat × Captures)
  | 0, p => k p caps
  | fuel + 1, p => match k p caps with
    | some r => some r
    | none => match next p with
      | some q => untilMatch next caps k fuel q
      | none => none

/-- Takes exactly `n` code points. -/
def takeExactly (next : Nat → Option Nat) : Nat → Nat → Option Nat
  | 0, p => some p
  | n + 1, p => match next p with
    | some q => takeExactly next n q
    | none => none

/-- Forgets the captures of groups `first` up to, and without, `last`. -/
def forget (caps : Captures) (first last : Nat) : Captures :=
  if first ≥ last then caps
  else caps.mapIdx fun i c => if 2 * first ≤ i && i < 2 * last then none else c

/-- The rounds of a repetition.  `count` rounds were made; a round beyond the least number has to
make progress. -/
def rounds (body : Nat → Captures → Continuation → Option (Nat × Captures)) (min : Nat)
    (max : Option Nat) (greedy : Bool) (first last : Nat) (k : Continuation) :
    Nat → Nat → Nat → Captures → Option (Nat × Captures)
  | 0, _, _, _ => none
  | fuel + 1, count, pos, caps =>
    let again := fun (_ : Unit) => body pos (forget caps first last) fun p c =>
      if count ≥ min && p == pos then none
      else rounds body min max greedy first last k fuel (count + 1) p c
    if count < min then again ()
    else if max.any (· ≤ count) then k pos caps
    else if greedy then match again () with
      | some r => some r
      | none => k pos caps
    else match k pos caps with
      | some r => some r
      | none => again ()

/-- Tries all ways in which a node matches, in order. -/
def Node.run (s : Subject) : Node → Bool → Nat → Captures → Continuation → Option (Nat × Captures)
  | .empty, _, pos, caps, k => k pos caps
  | .char c, back, pos, caps, k =>
    match s.single? back (fun d => s.fold d == s.fold c) pos with
    | some p => k p caps
    | none => none
  | .set cs, back, pos, caps, k =>
    match s.single? back (s.inSet cs) pos with
    | some p => k p caps
    | none => none
  | .any, back, pos, caps, k =>
    match s.single? back (fun _ => true) pos with
    | some p => k p caps
    | none => none
  | .dot, back, pos, caps, k =>
    match s.single? back (fun c => !Subject.isLineEnd c) pos with
    | some p => k p caps
    | none => none
  | .lineStart, _, pos, caps, k =>
    if pos == 0 || (s.flags.multiline && Subject.isLineEnd (s.input.at0 (pos - 1)).toNat) then
      k pos caps
    else none
  | .lineEnd, _, pos, caps, k =>
    if pos == s.input.size
        || (s.flags.multiline && Subject.isLineEnd (s.input.at0 pos).toNat) then k pos caps
    else none
  | .wordBoundary negated, _, pos, caps, k =>
    if (s.isWordAt true pos != s.isWordAt false pos) != negated then k pos caps else none
  | .seq a b, back, pos, caps, k =>
    if back then b.run s back pos caps fun p c => a.run s back p c k
    else a.run s back pos caps fun p c => b.run s back p c k
  | .alt a b, back, pos, caps, k =>
    match a.run s back pos caps k with
    | some r => some r
    | none => b.run s back pos caps k
  | .group i body, back, pos, caps, k =>
    body.run s back pos caps fun p c =>
      let (lo, hi) := if back then (p, pos) else (pos, p)
      k p ((c.setIfInBounds (2 * i) (some lo)).setIfInBounds (2 * i + 1) (some hi))
  | .backReference i, back, pos, caps, k =>
    match caps[2 * i]?.join, caps[2 * i + 1]?.join with
    | some lo, some hi => match s.repeated? back (hi - lo + 1) lo hi pos with
      | some p => k p caps
      | none => none
    | _, _ => k pos caps
  | .look behind negated body, _, pos, caps, k =>
    match body.run s behind pos caps fun p c => some (p, c) with
    | some (_, c) => if negated then none else k pos c
    | none => if negated then k pos caps else none
  | .rep body min max greedy first last, back, pos, caps, k =>
    match body.test? s with
    | some test =>
      let next := s.single? back test
      match takeExactly next min pos with
      | none => none
      | some p =>
        let left := match max with
          | some m => m - min
          | none => s.input.size + 1
        if greedy then tryEach caps k (advances next left p []) else untilMatch next caps k left p
    | none =>
      rounds (fun p c k => body.run s back p c k) min max greedy first last k
        (s.input.size + min + 2) 0 pos caps

/-- The captures of a match that starts at a position. -/
def matchAt (r : Regex) (input : Units) (pos : Nat) : Option Captures :=
  let caps := Array.replicate (2 * r.groupCount) none
  match r.root.run ⟨input, r.flags⟩ false pos caps fun p c => some (p, c) with
  | some (p, c) => some ((c.setIfInBounds 0 (some pos)).setIfInBounds 1 (some p))
  | none => none

/-- The captures of the first match that starts at or after a position; an expression that is sticky
matches at the position only. -/
def search (r : Regex) (input : Units) (pos : Nat) : Option Captures :=
  go (input.size + 1 - pos) pos
where
  /-- Tries the positions that are left. -/
  go : Nat → Nat → Option Captures
    | 0, _ => none
    | fuel + 1, p => match r.matchAt input p with
      | some c => some c
      | none =>
        if r.flags.sticky then none
        else go fuel (if r.flags.unicode then p + (input.codeAt p).2 else p + 1)

/-- Start and end of a group, if it took part in the match. -/
def Captures.bounds? (caps : Captures) (i : Nat) : Option (Nat × Nat) := do
  return (← caps[2 * i]?.join, ← caps[2 * i + 1]?.join)

end ScriptHost.Regex
