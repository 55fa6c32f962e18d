import ScriptHost.Engine
import ScriptHost.Text.Digits
import ScriptHost.Text.Lines
import ScriptHost.Text.Words

/-!
# Reports of errors

The message of an error begins with the place where it was raised, and the active functions follow it,
one on each line.  The first place in all of this is the place of the report.

* `Place.find?` — the first place in a text.
* `faultReport` — the report of an error message.
-/

namespace ScriptHost.TableScript

open Text (isBlank isDecimal readWord?)
open Text.Words (isWordChar)

/-- The name of texts from the host, as messages show it. -/
def chunkName : String := "jst"

namespace Place

/-- The digits of a place at the start of a text, and what follows the place. -/
def read? (cs : List Char) : Option (List Char × List Char) :=
  let name := (chunkName ++ ":").toList
  if !name.isPrefixOf cs then none
  else
    let rest := cs.drop name.length
    match rest.takeWhile isDecimal, rest.dropWhile isDecimal with
    | [], _ => none
    | digits, ':' :: rest => some (digits, rest)
    | _, _ => none

/-- The first place in a text; `inWord` tells whether a part of a word stands before the text. -/
def findFrom? (inWord : Bool) : List Char → Option (List Char × List Char)
  | [] => none
  | c :: rest =>
    match if inWord then none else read? (c :: rest) with
    | some found => some found
    | none => findFrom? (isWordChar c) rest

/-- The first place in a text. -/
def find? (cs : List Char) : Option (List Char × List Char) := findFrom? false cs

end Place

/-- What a message says, without the place. -/
def description (line : List Char) : String :=
  match Place.find? line with
  | some (_, rest) => String.ofList (rest.dropWhile isBlank)
  | none => String.ofList line

/-- The report of an error message of some kind.  Its lines count from 0; columns are not known. -/
def faultReport (sourceName text : String) : ErrorReport :=
  let cs := text.toList
  let line := ((Place.find? cs).bind fun p => readWord? p.1).getD 1
  { sourceName, code := errorCode sourceName
    description := description ((Text.linesOf cs).headD [])
    line := line - 1, column := 0, sourceText := none }

end ScriptHost.TableScript
