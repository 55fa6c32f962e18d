import ScriptHost.ProtoScript.Builtin.Member
import ScriptHost.Template.Tags

/-!
# Delimiters that do not have one group each

For each match the library calls a function that expects the code of the three kinds of tag and then the
place of the match.  What it is given are the groups, then the place, then the whole text, and at last the
named groups, if there are any; so when the delimiters together have more or less than three groups, it
takes one of these for another.

* `Given` — what the function is given.
* `missesPlace` — delimiters with which the place is an object, and no position can be made of it.
* `shiftedPieces` — a text as literal text and tags, the way the function takes them.
-/

namespace ScriptHost.Template

open ProtoScript (Script textNumber wholePart)
open Text (Units)

/-- What is given to the function. -/
inductive Given where
  | absent
  | number (n : Nat)
  | text (u : Units)
deriving DecidableEq, Inhabited

namespace Given

/-- A position in a text of some size, with a default for what is absent. -/
def position (size absent : Nat) : Given → Nat
  | .absent => absent
  | .number n => min n size
  | .text u => Script.relative (wholePart (textNumber u)) size

/-- The tag with this for its code, unless it counts as false. -/
def tag (kind : TagKind) : Given → List Piece
  | .absent => []
  | .number n => if n = 0 then [] else [.tag kind (Units.ofString (toString n))]
  | .text u => if u.isEmpty then [] else [.tag kind u]

/-- A size is added to a number, and appended to a text. -/
def plus (n : Nat) : Given → Given
  | .absent => .absent
  | .number m => .number (m + n)
  | .text u => .text (u ++ Units.ofString (toString n))

end Given

/-- A group of a match. -/
def groupOf (text : Units) (c : Regex.Captures) (group : Nat) : Given :=
  match c.bounds? group with
  | none => .absent
  | some (start, stop) => .text (text.slice start stop)

/-- What the function is given of a match at a place. -/
def givenTo (r : Regex) (text : Units) (c : Regex.Captures) (place : Nat) : List Given :=
  (List.range' 1 (r.groupCount - 1)).map (groupOf text c) ++ [.number place, .text text]

/-- Whether the named groups come to stand where the place is expected. -/
def missesPlace (r : Regex) : Bool := r.groupCount == 2 && !r.names.isEmpty

/-- Literal text and tags by turns, from what is taken for a position. -/
def shiftedFrom (r : Regex) (text : Units) : Given → List Regex.Captures → List Piece
  | _, [] => []
  | index, c :: rest => match c.bounds? 0 with
    | none => []
    | some (start, stop) =>
      let given (i : Nat) : Given := (givenTo r text c start).getD i .absent
      .literal (text.slice (index.position text.size 0) ((given 3).position text.size text.size))
        :: (given 0).tag .escape ++ (given 1).tag .interpolate ++ (given 2).tag .evaluate
        ++ shiftedFrom r text ((given 3).plus (stop - start)) rest

/-- A text as literal text and tags. -/
def shiftedPieces (r : Regex) (text : Units) : List Piece :=
  shiftedFrom r text (.number 0) (allMatches r text)

end ScriptHost.Template
