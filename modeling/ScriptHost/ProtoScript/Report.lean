import ScriptHost.ProtoScript.Marshal
import ScriptHost.Text.Digits

/-!
# Reports of thrown values

An error object carries its class, its message and a stack text, one line for each activation.  The
position of the error is that of the latest activation that has one; the machine's own functions have
none.

* `Stack.position?` — the first position in a stack text.
* `Script.report` — the report of a thrown value.
-/

namespace ScriptHost.ProtoScript

open Text (isBlank isDecimal readWord?)

namespace Stack

/-- The characters of a file name. -/
def isFileChar (c : Char) : Bool := !isBlank c && c != '(' && c != ')' && c != ':'

/-- Whether nothing but white space follows on the line. -/
def endsLine (cs : List Char) : Bool :=
  match cs.dropWhile isBlank with
  | [] => true
  | _ => (cs.takeWhile isBlank).contains '\n'

/-- What follows an optional closing parenthesis. -/
def dropClosing : List Char → List Char
  | ')' :: rest => rest
  | cs => cs

/-- A colon and digits after it: the digits and the rest. -/
def number? : List Char → Option (List Char × List Char)
  | ':' :: rest =>
    match rest.takeWhile isDecimal with
    | [] => none
    | digits => some (digits, rest.dropWhile isDecimal)
  | _ => none

/-- A place `FILE:LINE` or `FILE:LINE:COLUMN` that ends its line, as the digits of its numbers. -/
def place? (cs : List Char) : Option (List Char × Option (List Char)) := do
  if (cs.takeWhile isFileChar).isEmpty then none
  let (line, rest) ← number? (cs.dropWhile isFileChar)
  let (column, rest) := match number? rest with
    | some (column, rest) => (some column, rest)
    | none => (none, rest)
  if endsLine (dropClosing rest) then some (line, column) else none

/-- What follows the first opening parenthesis of a line. -/
def afterOpening? (cs : List Char) : Option (List Char) :=
  match cs.dropWhile fun c => c != '(' && c != '\n' with
  | '(' :: rest => some rest
  | _ => none

/-- The place of a frame at the start of a text: in parentheses, or directly after `at`. -/
def frame? (cs : List Char) : Option (List Char × Option (List Char)) :=
  match cs.dropWhile isBlank with
  | 'a' :: 't' :: c :: rest =>
    if isBlank c then
      let rest := rest.dropWhile isBlank
      ((afterOpening? rest).bind place?).orElse fun _ => place? rest
    else none
  | _ => none

/-- The first place that stands at the start of a line. -/
def firstPlace? (cs : List Char) : Option (List Char × Option (List Char)) :=
  match frame? cs with
  | some p => some p
  | none =>
    match _h : Text.splitLine cs with
    | (_, none) => none
    | (_, some rest) => firstPlace? rest
termination_by cs.length
decreasing_by exact Text.splitLine_length (by assumption)

/-- The first line and column number in a stack text, as far as they are small enough. -/
def position? (stack : String) : Option (Nat × Option Nat) := do
  let (line, column) ← firstPlace? stack.toList
  return (← readWord? line, column.bind readWord?)

end Stack

namespace Script

/-- Reads a property for a report; what a getter throws is ignored. -/
def peek (v : Val) (name : String) : Script Val :=
  catching (getName v name) fun _ => return .undefined

/-- A property that holds a text. -/
def peekText? (v : Val) (name : String) : Script (Option String) := do
  match ← peek v name with
  | .str u => match exportUnits u with
    | .ok (.text s) => return some s
    | _ => return none
  | _ => return none

/-- A property that holds a whole number of 32 bits; negative ones count as zero. -/
def peekWord? (v : Val) (name : String) : Script (Option Nat) := do
  match ← peek v name with
  | .num x => if x.floor == x && x.abs ≤ 2147483648 && x != 2147483648 then
      return some (if x > 0 then x.toUInt64.toNat else 0) else return none
  | _ => return none

/-- The report of a thrown value.  Positions of errors count from 1, those of reports from 0. -/
def report (thrown : Val) : Script ErrorReport := do
  if !thrown.isObject then
    let description := match ← exportVal thrown with
      | .ok v => v.display
      | .error _ => ""
    return { sourceName := "Error", code := errorCode "Error", description
             line := 0, column := 0, sourceText := none }
  let sourceName := (← peekText? thrown "name").getD "Error"
  let description := (← peekText? thrown "message").getD ""
  let position := ((← peekText? thrown "stack").bind Stack.position?)
  let line ← peekWord? thrown "lineNumber"
  let column ← peekWord? thrown "columnNumber"
  let line := line.orElse fun _ => position.map (·.1)
  let column := column.orElse fun _ => position.bind (·.2)
  return {
    sourceName, code := errorCode sourceName, description
    line := line.getD 1 - 1, column := column.getD 1 - 1, sourceText := none }

end Script

end ScriptHost.ProtoScript
