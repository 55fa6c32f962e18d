import ScriptHost.TableScript.Builtin.Argument
import ScriptHost.TableScript.Pattern

/-!
# Functions that match patterns

* `Matching.search` — finds a pattern or a plain text.
* `Matching.eachMatch` — a function that answers one match after the other.
* `Matching.substitute` — replaces matches by a text, or by what a table or function has for them.
-/

namespace ScriptHost.TableScript.Builtin.Matching

open Text (Bytes)
open Script

/-- What a pattern answers, or the error that it is wrong. -/
def admitted {α : Type} (answer : Except String α) : Script α := do
  match answer with
  | .ok a => return a
  | .error message => failCall message

/-- What a capture holds as a value. -/
def heldValue : Pattern.Held → Val
  | .part s => .str s
  | .place n => .ofNat n

/-- The values of all captures. -/
def captures (found : Pattern.Found) (text : Bytes) (wholeIfNone : Bool) : Script (Array Val) := do
  return ((← admitted (found.all text wholeIfNone)).map heldValue).toArray

/-! ## Searching -/

/-- The position from which a search begins. -/
def searchStart (args : Array Val) (size : Nat) : Script Nat :=
  return startPosition (← integerOr args 2 1) size - 1

/-- Finds a pattern.  The answer begins with the places of the match if these are asked for. -/
def search (asksPlaces : Bool) (args : Array Val) : Script (Array Val) := do
  let text ← textArg args 0
  let pattern ← textArg args 1
  let start ← searchStart args text.size
  if start > text.size then return #[.nil]
  let isPlain := (args.getD 3 .nil).isTrue || Pattern.isPlain pattern
  if asksPlaces && isPlain then
    match text.find? pattern start with
    | some i => return #[.ofNat (i + 1), .ofNat (i + pattern.size)]
    | none => return #[.nil]
  match ← admitted (Pattern.find? text pattern start) with
  | none => return #[.nil]
  | some found =>
    let held ← captures found text !asksPlaces
    if asksPlaces then return #[.ofNat (found.start + 1), .ofNat found.stop] ++ held
    else return held

/-- The first match from `s` on that does not end where the latest one did. -/
def nextMatch (text pattern : Bytes) (i : Nat) (last : Option Nat) :
    Nat → Nat → Except String (Option Pattern.Found)
  | 0, _ => return none
  | fuel + 1, s => do
    match ← Pattern.matchAt text pattern s i with
    | some found =>
      if some found.stop = last then nextMatch text pattern i last fuel (s + 1)
      else return some found
    | none => nextMatch text pattern i last fuel (s + 1)

/-- Answers the next match; the function keeps the text, the pattern, and where to go on. -/
def answerMatch (f : Nat) : Script (Array Val) := do
  match (← heldBy f).toList with
  | [.str text, .str pattern, .int start, last] =>
    let last := match last with
      | .int i => some i.toInt.toNat
      | _ => none
    let start := start.toInt.toNat
    match ← admitted (nextMatch text pattern 0 last (text.size + 1 - start) start) with
    | none => return #[]
    | some found =>
      hold f #[.str text, .str pattern, .ofNat found.stop, .ofNat found.stop]
      captures found text true
  | _ => return #[]

/-- A function that answers one match after the other; `index` is the number of `answerMatch`. -/
def eachMatch (index : Nat) (args : Array Val) : Script (Array Val) := do
  let text ← textArg args 0
  let pattern ← textArg args 1
  let start ← searchStart args text.size
  let start := min start (text.size + 1)
  return #[← holder index #[.str text, .str pattern, .ofNat start, .nil]]

/-! ## Replacing -/

/-- The text that stands for a match; `%` and a digit stand for a capture. -/
def expand (found : Pattern.Found) (text : Bytes) : List UInt8 → Except String Bytes
  | [] => return Bytes.empty
  | 37 :: c :: rest =>
    if c == 37 then return Bytes.ofList [c] ++ (← expand found text rest)
    else if c == 48 then
      return text.slice found.start found.stop ++ (← expand found text rest)
    else if Pattern.isDigit c then do
      let piece := match ← found.capture text (c.toNat - 49) with
        | .part s => s
        | .place n => .ofString (toString n)
      return piece ++ (← expand found text rest)
    else throw "invalid use of '%' in replacement string"
  | [37] => throw "invalid use of '%' in replacement string"
  | c :: rest => return Bytes.ofList [c] ++ (← expand found text rest)

/-- The text for a match, if it is to be replaced. -/
def replacement? (found : Pattern.Found) (text : Bytes) (repl : Val) : Script (Option Bytes) := do
  let value ← match repl with
    | .function _ => callOne repl (← captures found text true)
    | .table _ => getIndex repl (heldValue (← admitted (found.capture text 0)))
    | v => do
      let pattern := (v.text?.getD Bytes.empty).toList
      pure (.str (← admitted (expand found text pattern)))
  if !value.isTrue then return none
  match value.text? with
  | some s => return some s
  | none =>
    failCall ("invalid replacement value (a " ++ value.typeName ++ ")")

/-- A text in which matches are being replaced. -/
structure Progress where
  /-- The finished part. -/
  done : Bytes := Bytes.empty
  position : Nat := 0
  /-- The end of the latest match. -/
  last : Option Nat := none
  count : Nat := 0
  changed : Bool := false

/-- Replaces matches from a position on, as many as are asked for. -/
def replaceFrom (text pattern : Bytes) (repl : Val) (most : Int) : Nat → Progress → Script Progress
  | 0, p => return p
  | fuel + 1, p => do
    if p.count ≥ most then return p
    let anchored := Pattern.isAnchored pattern
    let i := if anchored then 1 else 0
    let found ← admitted (Pattern.matchAt text pattern p.position i)
    match found.filter fun found => some found.stop != p.last with
    | some found =>
      let piece ← replacement? found text repl
      let p : Progress := {
        done := p.done ++ piece.getD (text.slice found.start found.stop)
        position := found.stop
        last := some found.stop
        count := p.count + 1
        changed := p.changed || piece.isSome }
      if anchored then return p else replaceFrom text pattern repl most fuel p
    | none =>
      if p.position < text.size then
        let p := { p with
          done := p.done ++ text.slice p.position (p.position + 1)
          position := p.position + 1 }
        if anchored then return p else replaceFrom text pattern repl most fuel p
      else return p

/-- Replaces matches; answers the text and the number of matches. -/
def substitute (args : Array Val) : Script (Array Val) := do
  let text ← textArg args 0
  let pattern ← textArg args 1
  let repl := args.getD 2 .nil
  let most ← integerOr args 3 (.ofNat (text.size + 1))
  match repl with
  | .function _ | .table _ => pure ()
  | v => if !v.isTextual then failType args 2 "string/function/table"
  let p ← replaceFrom text pattern repl most.toInt (2 * text.size + 2) {}
  let result := if p.changed then p.done ++ text.slice p.position text.size else text
  return #[.str result, .ofNat p.count]

end ScriptHost.TableScript.Builtin.Matching
