import ScriptHost.TableScript.Builtin.Argument
import ScriptHost.TableScript.NumberFormat
import ScriptHost.TableScript.Pattern

/-!
# Formatted texts

* `Formatting.format` — a text with the values of arguments.
-/

namespace ScriptHost.TableScript.Builtin.Formatting

open Text (Bytes)
open Script

/-! ## Conversions -/

/-- The flags that letters admit. -/
def floatFlags : List Char := ['-', '+', ' ', '#', '0']

def baseFlags : List Char := ['-', '#', '0']

def integerFlags : List Char := ['-', '+', '0', ' ']

def naturalFlags : List Char := ['-', '0']

def textFlags : List Char := ['-']

/-- The greatest number of characters before the letter of a conversion. -/
def lengthLimit : Nat := 22

/-- At most two digits, as a number. -/
def twoDigits (cs : List Char) : Option Nat × List Char :=
  let digits := (cs.take 2).takeWhile Char.isDigit
  (if digits.isEmpty then none else some (Number.digitsValue 10 digits), cs.drop digits.length)

/-- The flags, the width and the precision of a conversion. -/
def conversion? (body : List Char) (letter : Char) (flags : List Char) (precise : Bool) :
    Option Conversion :=
  let shown := body.takeWhile flags.contains
  let rest := body.drop shown.length
  let (width, rest) := if rest.head? = some '0' then (none, rest) else twoDigits rest
  let (precision, rest) := match rest with
    | '.' :: more =>
      if precise then
        let (n, more) := twoDigits more
        (some (n.getD 0), more)
      else (none, rest)
    | _ => (none, rest)
  if rest.isEmpty then some { flags := shown, width := width.getD 0, precision, letter } else none

/-- A conversion that is not admitted. -/
def failConversion {α : Type} (body : List Char) (letter : Option Char) : Script α :=
  failCallBytes (.ofString "invalid conversion '%" ++ Bytes.ofChars (body ++ letter.toList)
    ++ .ofString "' to 'format'")

/-- A conversion with the flags that its letter admits. -/
def admittedConversion (body : List Char) (letter : Char) (flags : List Char) (precise : Bool) :
    Script Conversion := do
  match conversion? body letter flags precise with
  | some c => return c
  | none => failConversion body letter

/-! ## Literals -/

/-- A text as a literal of the language. -/
def quoted : List UInt8 → Bytes
  | [] => Bytes.empty
  | c :: rest =>
    let piece : Bytes :=
      if c == 34 || c == 92 || c == 10 then .ofList [92, c]
      else if Pattern.isControl c then
        let digits := toString c.toNat
        let followed := match rest with
          | d :: _ => Pattern.isDigit d
          | [] => false
        let zeros := if followed then String.ofList (List.replicate (3 - digits.length) '0') else ""
        .ofString ("\\" ++ zeros ++ digits)
      else .ofList [c]
    piece ++ quoted rest

/-- A double as a literal that stands for exactly the same number. -/
def floatLiteral (x : Float) : Bytes :=
  if x.isNaN then .ofString "(0/0)"
  else if x.isInf then .ofString (if x > 0 then "1e9999" else "-1e9999")
  else ({ letter := 'a' } : Conversion).float x false

/-- A value as a literal of the language. -/
def literal (args : Array Val) (i : Nat) : Script Bytes := do
  match ← anyArg args i with
  | .str s => return .ofString "\"" ++ quoted s.toList ++ .ofString "\""
  | .int n =>
    if n == Int64.minValue then return .ofString "0x8000000000000000"
    else return .ofString (Number.intText n)
  | .num x => return floatLiteral x
  | .unsignedNan => return floatLiteral Number.nan
  | .nil => return .ofString "nil"
  | .bool b => return .ofString (if b then "true" else "false")
  | _ => failArgument (i + 1) "value has no literal form"

/-! ## Formats -/

/-- An argument as text with a conversion. -/
def convertText (args : Array Val) (i : Nat) (body : List Char) : Script Bytes := do
  let s ← displayText (← anyArg args i)
  if body.isEmpty then return s
  require (!s.toList.contains 0) i "string contains zeros"
  let c ← admittedConversion body 's' textFlags true
  return if c.precision.isNone && s.size ≥ 100 then s else c.text s

/-- An integer of 64 bits as a natural number. -/
def asNatural (n : Int64) : Nat := n.toUInt64.toNat

/-- An argument with a conversion, given by what stands before its letter. -/
def convert (args : Array Val) (i : Nat) (body : List Char) (letter : Char) : Script Bytes := do
  match letter with
  | 'c' =>
    let c ← admittedConversion body letter textFlags false
    return c.text (.ofList [(← integerArg args i).toUInt64.toUInt8])
  | 'd' | 'i' =>
    let n ← integerArg args i
    return (← admittedConversion body letter integerFlags true).integer n.toInt
  | 'u' =>
    let n ← integerArg args i
    return (← admittedConversion body letter naturalFlags true).unsigned (asNatural n)
  | 'o' | 'x' | 'X' =>
    let n ← integerArg args i
    return (← admittedConversion body letter baseFlags true).unsigned (asNatural n)
  | 'a' | 'A' =>
    let c ← admittedConversion body letter floatFlags true
    return c.float (← floatArg args i) true
  | 'f' | 'e' | 'E' | 'g' | 'G' =>
    let v ← numberArg args i
    let signed := match v with
      | .unsignedNan => false
      | _ => true
    return (← admittedConversion body letter floatFlags true).float (v.number?.getD 0) signed
  | 'p' =>
    let c ← admittedConversion body letter textFlags false
    let text := match address? (args.getD i .nil) with
      | some n => addressText n
      | none => "(null)"
    return c.text (.ofString text)
  | 'q' =>
    if !body.isEmpty then failCall "specifier '%q' cannot have modifiers"
    literal args i
  | 's' => convertText args i body
  | _ => failConversion body letter

/-- The characters that may stand before the letter of a conversion. -/
def isModifier (c : Char) : Bool := floatFlags.contains c || c.isDigit || c == '.'

/-- A format from some place on, with the arguments from `i` on. -/
def formatFrom (args : Array Val) : Nat → Nat → List Char → Bytes → Script Bytes
  | 0, _, _, done => return done
  | _, _, [], done => return done
  | fuel + 1, i, '%' :: '%' :: rest, done =>
    formatFrom args fuel i rest (done ++ .ofString "%")
  | fuel + 1, i, '%' :: rest, done => do
    if i ≥ args.size then failArgument (i + 1) "no value"
    let body := rest.takeWhile isModifier
    if body.length + 1 ≥ lengthLimit then failCall "invalid format string to 'format'"
    match rest.drop body.length with
    | [] => failConversion body none
    | letter :: rest =>
      formatFrom args fuel (i + 1) rest (done ++ (← convert args i body letter))
  | fuel + 1, i, cs, done =>
    let plain := cs.takeWhile (· != '%')
    formatFrom args fuel i (cs.drop plain.length) (done ++ Bytes.ofChars plain)

/-- A text with the values of arguments. -/
def format (args : Array Val) : Script (Array Val) := do
  let cs := (← textArg args 0).chars
  return #[.str (← formatFrom args (cs.length + 1) 1 cs Bytes.empty)]

end ScriptHost.TableScript.Builtin.Formatting
