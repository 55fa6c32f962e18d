import ScriptHost.Template.Tags

/-!
# The source of a compiled template

A template is compiled to the text of a function of one argument, the data.  Literal text becomes
string literals, the code of a tag is copied as it stands, and the properties of the data are its
variables.

* `Piece.source` — the text of one piece.
* `bodySource` — the body of the function.
* `functionSource` — the function.
-/

namespace ScriptHost.Template

open Text (Units)

/-- How one unit is written inside single quotes. -/
def quoteUnit (c : UInt16) : Units :=
  if c = 0x5C then Units.ofString "\\\\"
  else if c = 0x27 then Units.ofString "\\'"
  else if c = 0x0D then Units.ofString "\\r"
  else if c = 0x0A then Units.ofString "\\n"
  else if c = 0x09 then Units.ofString "\\t"
  else if c = 0x2028 then Units.ofString "\\u2028"
  else if c = 0x2029 then Units.ofString "\\u2029"
  else #[c]

/-- Literal text inside single quotes. -/
def quoteUnits (text : Units) : Units := text.flatMap quoteUnit

/-- The text of a piece.  It stands inside single quotes, which a tag leaves and enters again. -/
def Piece.source : Piece → Units
  | .literal text => quoteUnits text
  | .tag .escape code =>
    Units.ofString "'+\n((__t=(" ++ code ++ Units.ofString "))==null?'':_.escape(__t))+\n'"
  | .tag .interpolate code =>
    Units.ofString "'+\n((__t=(" ++ code ++ Units.ofString "))==null?'':__t)+\n'"
  | .tag .evaluate code => Units.ofString "';\n" ++ code ++ Units.ofString "\n__p+='"

/-- The statements that produce the pieces. -/
def statementsSource (ps : List Piece) : Units :=
  ps.foldl (fun out p => out ++ p.source) (Units.ofString "__p+='") ++ Units.ofString "';\n"

/-- The body of the function. -/
def bodySource (ps : List Piece) : Units :=
  Units.ofString ("var __t,__p='',__j=Array.prototype.join,"
    ++ "print=function()\x7b__p+=__j.call(arguments,'');\x7d;\nwith(obj||\x7b\x7d)\x7b\n")
    ++ statementsSource ps ++ Units.ofString "\x7d\nreturn __p;\n"

/-- The function. -/
def functionSource (ps : List Piece) : Units :=
  Units.ofString "function(obj)\x7b\n" ++ bodySource ps ++ Units.ofString "\x7d"

end ScriptHost.Template
