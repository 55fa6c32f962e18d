import ScriptHost.Text.Lines

/-!
# Faults

A fault is what the host learns of an error that a script raised: its class, a numeric code, a
1-based position, a description and the source line.  Engines do not build faults; they hand an
`ErrorReport` with a 0-based position to the site, and `ErrorReport.fault` turns it into one.

* `errorCode` — the numeric code of an error class.
* `Fault.make` — a fault with its message composed from its other parts.
* `Fault.against` — the same fault with its source line read from another text.
-/

namespace ScriptHost

/-- The greatest line or column number. -/
def positionLimit : Nat := 0xFFFFFFFF

/-- A position counter, one further; the greatest one stays. -/
def succPosition (n : Nat) : Nat := min (n + 1) positionLimit

/-- An unsigned 32-bit word read as a signed one. -/
def signedWord (n : Nat) : Int := if n < 0x80000000 then n else (n : Int) - 0x100000000

/-- The numeric code of an error class, by the class's name. -/
def errorCode : String → Int
  | "SyntaxError" | "syntax error" => signedWord 0x800A03EA
  | "ReferenceError" => signedWord 0x800A1391
  | "TypeError" => signedWord 0x800A000D
  | "RangeError" | "URIError" => signedWord 0x800A0005
  | _ => signedWord 0x800A139E

/-- Eight hexadecimal digits of a signed 32-bit word. -/
def hexWord (code : Int) : String :=
  let ds := (Nat.toDigits 16 (code % 0x100000000).toNat).map Char.toUpper
  String.ofList (List.replicate (8 - ds.length) '0' ++ ds)

/-- An error raised by a script, with a 1-based position. -/
structure Fault where
  message : String
  sourceName : String
  code : Int
  line : Nat
  column : Nat
  description : String
  sourceLine : Option String
deriving DecidableEq, Inhabited

/-- A fault whose message is composed from its other parts; an empty source line counts as none. -/
def Fault.make (sourceName : String) (code : Int) (line column : Nat) (description : String)
    (sourceLine : Option String) : Fault :=
  let sourceLine := sourceLine.filter (!·.isEmpty)
  let head := "Script exception: " ++ sourceName ++ ". Error number " ++ toString code ++ " (0x"
    ++ hexWord code ++ "): " ++ description ++ " at line " ++ toString line ++ ", column "
    ++ toString column ++ "."
  let message := match sourceLine with
    | some text => head ++ " Source line: '" ++ text ++ "'."
    | none => head
  { message, sourceName, code, line, column, description, sourceLine }

/-- What an engine tells the site about a script error.  The position is 0-based. -/
structure ErrorReport where
  sourceName : String
  code : Int
  description : String
  line : Nat
  column : Nat
  /-- The text that the position refers to. -/
  sourceText : Option String
deriving DecidableEq, Inhabited

/-- The text of the line that a report points at, if there is one. -/
def ErrorReport.sourceLine (r : ErrorReport) : Option String := do
  Text.lineAt? (← r.sourceText) r.line

/-- The fault that a report describes. -/
def ErrorReport.fault (r : ErrorReport) : Fault :=
  .make r.sourceName r.code (succPosition r.line) (succPosition r.column) r.description r.sourceLine

/-- A fault with its source line read from `text`, which its position refers to. -/
def Fault.against (f : Fault) (text : String) : Fault :=
  .make f.sourceName f.code f.line f.column f.description
    (if f.line = 0 then none else Text.lineAt? text (f.line - 1))

end ScriptHost
