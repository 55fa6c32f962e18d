import ScriptHost.Regex.Matcher
import ScriptHost.Regex.Parser
import ScriptHost.Template.Settings

/-!
# The tags of a template

The three delimiter expressions are tried in a fixed order at every place of a text, and the end of
the text counts as a match as well; the text between two matches is literal.

* `Delimiters` — the expressions in force.
* `allMatches` — the matches that are visited, from left to right.
* `pieces` — a text as literal text and tags.
-/

namespace ScriptHost.Template

open Text (Units)

/-- The expressions that mark the three kinds of tag, each with one group, the code. -/
structure Delimiters where
  escape : String
  interpolate : String
  evaluate : String
deriving DecidableEq, Inhabited

namespace Delimiters

/-- The delimiters that hold until others are given. -/
def standard : Delimiters where
  escape := "<%-([\\s\\S]+?)%>"
  interpolate := "<%=([\\s\\S]+?)%>"
  evaluate := "<%([\\s\\S]+?)%>"

/-- The flags of all delimiter expressions. -/
def flags : Regex.Flags := { global := true }

/-- Why an expression cannot be used, if it cannot. -/
def faultOf? (pattern : String) : Option String :=
  match Regex.parse (Units.ofString pattern) flags with
  | .ok _ => none
  | .error e => some e

/-- Replaces delimiters one after the other, as far as the first that is no regular expression. -/
def configureAll (d : Delimiters) : List (String × (Delimiters → Delimiters)) →
    Delimiters × Option String
  | [] => (d, none)
  | (pattern, change) :: rest => match faultOf? pattern with
    | some e => (d, some e)
    | none => configureAll (change d) rest

/-- A change, unless the setting for it is absent or empty. -/
def change (setting : Option String) (f : String → Delimiters → Delimiters) :
    List (String × (Delimiters → Delimiters)) :=
  match setting.filter (!·.isEmpty) with
  | some p => [(p, f p)]
  | none => []

/-- The changes that settings ask for, in the order in which they are made. -/
def changes (s : Settings) : List (String × (Delimiters → Delimiters)) :=
  change s.interpolate (fun p d => { d with interpolate := p })
    ++ change s.evaluate (fun p d => { d with evaluate := p })
    ++ change s.escape (fun p d => { d with escape := p })

/-- Replaces delimiters by settings.  When one is no regular expression, the changes before it stay. -/
def configure (d : Delimiters) (s : Settings) : Delimiters × Option String :=
  d.configureAll (changes s)

/-- The expression for all tags and the end of the text. -/
def pattern (d : Delimiters) : Units :=
  let source (p : String) : Units := Regex.escapedSource (Units.ofString p)
  source d.escape ++ Units.ofString "|" ++ source d.interpolate ++ Units.ofString "|"
    ++ source d.evaluate ++ Units.ofString "|$"

/-- The expression for all tags, unless the three cannot be combined. -/
def matcher (d : Delimiters) : Except String Regex := Regex.parse d.pattern flags

end Delimiters

/-! ## Matches -/

/-- The matches from a position on.  After an empty match the search goes on one unit later. -/
def matchesFrom (r : Regex) (text : Units) : Nat → Nat → List Regex.Captures
  | 0, _ => []
  | fuel + 1, pos =>
    if pos > text.size then []
    else match r.search text pos with
      | none => []
      | some c => match c.bounds? 0 with
        | none => []
        | some (start, stop) =>
          c :: matchesFrom r text fuel (if start = stop then stop + 1 else stop)

/-- The matches of an expression in a text, from left to right. -/
def allMatches (r : Regex) (text : Units) : List Regex.Captures :=
  matchesFrom r text (text.size + 2) 0

/-! ## Pieces -/

/-- What becomes of the code of a tag. -/
inductive TagKind where
  /-- The value of the code, with markup characters replaced by entities. -/
  | escape
  /-- The value of the code. -/
  | interpolate
  /-- The code is run. -/
  | evaluate
deriving DecidableEq, Inhabited

/-- A piece of a template. -/
inductive Piece where
  | literal (text : Units)
  | tag (kind : TagKind) (code : Units)
deriving DecidableEq, Inhabited

/-- The tag that a group of a match stands for, unless the group is absent or empty. -/
def tagOf (text : Units) (c : Regex.Captures) (group : Nat) (kind : TagKind) : List Piece :=
  match c.bounds? group with
  | none => []
  | some (start, stop) =>
    if start = stop then [] else [.tag kind (text.slice start stop)]

/-- The tags of a match. -/
def tagsOf (text : Units) (c : Regex.Captures) : List Piece :=
  tagOf text c 1 .escape ++ tagOf text c 2 .interpolate ++ tagOf text c 3 .evaluate

/-- Literal text and tags by turns, from a position on. -/
def piecesFrom (text : Units) : Nat → List Regex.Captures → List Piece
  | _, [] => []
  | pos, c :: rest => match c.bounds? 0 with
    | none => []
    | some (start, stop) =>
      .literal (text.slice pos start) :: tagsOf text c ++ piecesFrom text stop rest

/-- A text as literal text and tags. -/
def pieces (r : Regex) (text : Units) : List Piece := piecesFrom text 0 (allMatches r text)

end ScriptHost.Template
