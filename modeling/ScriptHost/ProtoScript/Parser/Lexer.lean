import ScriptHost.ProtoScript.Parser.State
import ScriptHost.Text.Identifier

/-!
# Tokens

Reading of tokens.  A token is read only when the one before is passed, because what a name or a
slash means depends on where it stands.

* `Lexer.next` — passes the present token.
* `Lexer.templatePart` — the part of a template after an embedded expression.
* `Lexer.regexp` — reads the present slash as the start of a regular expression.
* `Lexer.stringBody` — the value of a string or of a part of a template.
-/

namespace ScriptHost.ProtoScript.Lexer

open Text (Units)
open Parse

/-! ## Characters -/

def isSpace (c : Char) : Bool :=
  let n := c.toNat
  n == 0x20 || n == 0x09 || n == 0x0B || n == 0x0C || n == 0xA0 || n == 0xFEFF || n == 0x1680
    || (0x2000 ≤ n && n ≤ 0x200A) || n == 0x202F || n == 0x205F || n == 0x3000

def isNewline (c : Char) : Bool :=
  c == '\n' || c == '\r' || c.toNat == 0x2028 || c.toNat == 0x2029

def isIdentStart (c : Char) : Bool := Text.Identifier.isStart c.toNat

def isIdentPart (c : Char) : Bool := Text.Identifier.isPart c.toNat

/-- The value of a digit in bases up to 36. -/
def digitValue (c : Char) : Nat :=
  if c.isDigit then c.toNat - 0x30
  else if 'a' ≤ c && c ≤ 'z' then c.toNat - 0x57
  else if 'A' ≤ c && c ≤ 'Z' then c.toNat - 0x37
  else 99

/-- A line ends before the given place. -/
def newlineBefore (i : Cursor) : Parse Unit := modify fun s =>
  { s with line := s.line + 1, lineStart := i.pos }

/-! ## Space and comments -/

/-- The end of the line. -/
def lineEnd : Nat → Cursor → Cursor
  | 0, i => i
  | fuel + 1, i => if i.atEnd || isNewline i.char then i else lineEnd fuel (i.skip 1)

/-- The place after a comment, from a place inside. -/
def commentEnd : Nat → Cursor → Parse Cursor
  | 0, i => return i
  | fuel + 1, i => do
    if i.atEnd then fail "unexpected end of comment"
    let c := i.char
    if c == '*' && i.charAfter 1 == '/' then return i.skip 2
    if isNewline c then
      modify fun s => { s with newline := true }
      if c == '\n' then newlineBefore (i.skip 1)
    commentEnd fuel (i.skip 1)

/-- The place of the next token. -/
def skipSpace : Nat → Cursor → Parse Cursor
  | 0, i => return i
  | fuel + 1, i => do
    if i.atEnd then return i
    let c := i.char
    if isSpace c then skipSpace fuel (i.skip 1)
    else if c == '\r' && i.charAfter 1 == '\n' then skipSpace fuel (i.skip 1)
    else if isNewline c then
      modify fun s => { s with newline := true }
      newlineBefore (i.skip 1)
      skipSpace fuel (i.skip 1)
    else
      let s ← get
      if c == '/' && i.charAfter 1 == '/' then skipSpace fuel (lineEnd s.size (i.skip 2))
      else if c == '/' && i.charAfter 1 == '*' then
        modify fun s => { s with start := i, tokenLine := s.line, tokenLineStart := s.lineStart }
        skipSpace fuel (← commentEnd s.size (i.skip 2))
      else if c == '<' && i.charAfter 1 == '!' && i.charAfter 2 == '-' && i.charAfter 3 == '-' then
        skipSpace fuel (lineEnd s.size (i.skip 4))
      else if c == '-' && i.charAfter 1 == '-' && i.charAfter 2 == '>'
          && (s.newline || s.lastEnd == 0) then
        skipSpace fuel (lineEnd s.size (i.skip 3))
      else return i

/-! ## Names -/

/-- Words that are reserved everywhere. -/
def keywords : List String :=
  ["null", "false", "true", "if", "else", "return", "var", "this", "delete", "void", "typeof", "new",
    "in", "instanceof", "do", "while", "for", "break", "continue", "switch", "case", "default",
    "throw", "try", "catch", "finally", "function", "debugger", "with", "class", "const", "enum",
    "export", "extends", "import", "super"]

/-- Words that are reserved in strict code. -/
def strictKeywords : List String :=
  ["implements", "interface", "let", "package", "private", "protected", "public", "static", "yield"]

/-- Whether a word is reserved at the present place. -/
def isReserved (name : String) : Parse Bool := do
  if keywords.contains name then return true
  let s ← get
  let parentKind := (s.outer.head?.map (·.code.kind)).getD .normal
  let arrowHead := s.fn.code.form == .arrow && !s.fn.inBody
  let isGenerator (k : FunctionKind) : Bool := k == .generator || k == .asyncGenerator
  let isAsync (k : FunctionKind) : Bool := k == .async || k == .asyncGenerator
  if s.fn.code.strict && strictKeywords.contains name then return true
  if name == "yield" then
    return isGenerator s.fn.code.kind || (arrowHead && isGenerator parentKind)
  if name == "await" then
    return isAsync s.fn.code.kind || (arrowHead && isAsync parentKind)
  return false

/-- The token of a word. -/
def wordToken (name : String) (escaped : Bool) : Parse Token := do
  if ← isReserved name then
    return if escaped then .ident name true true else .keyword name
  return .ident name escaped false

/-- The value of hexadecimal digits, exactly `n` of them. -/
def hexDigits : Nat → Cursor → Nat → Option Nat
  | 0, _, acc => some acc
  | n + 1, i, acc =>
    let d := digitValue i.char
    if d < 16 then hexDigits n (i.skip 1) (16 * acc + d) else none

/-- The value of hexadecimal digits before a closing brace, and the place after it. -/
def bracedHex : Nat → Cursor → Nat → Option (Nat × Cursor)
  | 0, _, _ => none
  | fuel + 1, i, acc =>
    let d := digitValue i.char
    if d ≥ 16 || 16 * acc + d > 0x10FFFF then none
    else if i.charAfter 1 == '\x7d' then some (16 * acc + d, i.skip 2)
    else bracedHex fuel (i.skip 1) (16 * acc + d)

/-- The code point of a unicode escape after its letter, and the place after it. -/
def unicodeEscape (i : Cursor) : Option (Nat × Cursor) :=
  if i.char == '\x7b' then bracedHex 40 (i.skip 1) 0
  else (hexDigits 4 i 0).map (·, i.skip 4)

/-- Reads the rest of a name. -/
def nameRest : Nat → Cursor → String → Bool → Cursor × String × Bool
  | 0, i, acc, escaped => (i, acc, escaped)
  | fuel + 1, i, acc, escaped =>
    let c := i.char
    if c == '\\' && i.charAfter 1 == 'u' then
      match unicodeEscape (i.skip 2) with
      | some (n, j) =>
        if Text.Identifier.isPart n then nameRest fuel j (acc.push (Char.ofNat n)) true
        else (i, acc, escaped)
      | none => (i, acc, escaped)
    else if isIdentPart c && !i.atEnd then nameRest fuel (i.skip 1) (acc.push c) escaped
    else (i, acc, escaped)

/-! ## Numbers -/

/-- Digits of a base, with single underscores between them if those are admitted: the value, the
number of digits, and the place after them. -/
def digitRun (base : Nat) (underscores : Bool) : Nat → Cursor → Nat → Nat → Nat × Nat × Cursor
  | 0, i, acc, n => (acc, n, i)
  | fuel + 1, i, acc, n =>
    let c := i.char
    let d := digitValue c
    if d < base then digitRun base underscores fuel (i.skip 1) (base * acc + d) (n + 1)
    else if c == '_' && underscores && n > 0 && digitValue (i.charAfter 1) < base then
      digitRun base underscores fuel (i.skip 1) acc n
    else (acc, n, i)

/-- Ends a numeral: a letter must not follow. -/
def endNumber (t : Token) (i : Cursor) : Parse (Token × Cursor) := do
  if !i.atEnd && isIdentPart i.char then fail "invalid number literal"
  return (t, i)

/-- A numeral of digits only, perhaps with the suffix of big integers. -/
def wholeNumber (value : Nat) (i : Cursor) (mayBeBig : Bool) : Parse (Token × Cursor) :=
  if mayBeBig && i.char == 'n' then endNumber (.bigint value) (i.skip 1)
  else endNumber (.number (Float.ofScientific value false 0)) i

/-- Reads the fraction and the exponent of a decimal numeral. -/
def decimalTail (whole wholeDigits : Nat) (i : Cursor) : Parse (Token × Cursor) := do
  let size := (← get).size
  let (value, places, i, dotted) := if i.char == '.' then
      let (v, n, j) := digitRun 10 true size (i.skip 1) whole 0
      (v, n, j, true)
    else (whole, 0, i, false)
  if wholeDigits == 0 && places == 0 then fail "invalid number literal"
  let c := i.char
  let sign := i.charAfter 1
  let start := if sign == '+' || sign == '-' then i.skip 2 else i.skip 1
  if (c == 'e' || c == 'E') && start.char.isDigit then
    let (e, _, j) := digitRun 10 true size start 0 0
    let e : Int := if sign == '-' then -e else e
    let e := e - places
    -- beyond these exponents nothing changes any more
    let e : Int := if value == 0 then 0 else max (-5000 - places) (min 5000 e)
    let x := if e < 0 then Float.ofScientific value true e.natAbs
      else Float.ofScientific value false e.natAbs
    endNumber (.number x) j
  else if !dotted && c == 'n' then endNumber (.bigint whole) (i.skip 1)
  else endNumber (.number (Float.ofScientific value true places)) i

/-- Reads a numeral. -/
def number (i : Cursor) : Parse (Token × Cursor) := do
  let size := (← get).size
  let c := i.char
  let d := i.charAfter 1
  let based (base : Nat) : Parse (Token × Cursor) := do
    let (v, n, j) := digitRun base true size (i.skip 2) 0 0
    if n == 0 then fail "invalid number literal"
    wholeNumber v j true
  if c == '0' then
    if d.isDigit && (← isStrict) then fail "octal literals are deprecated in strict mode"
    if d == 'x' || d == 'X' then based 16
    else if d == 'o' || d == 'O' then based 8
    else if d == 'b' || d == 'B' then based 2
    else if d.isDigit then
      let (v, n, j) := digitRun 8 false size (i.skip 1) 0 0
      if j.char == '8' || j.char == '9' then
        let (v, n, j) := digitRun 10 false size (i.skip 1) 0 0
        decimalTail v n j
      else if n == 0 then decimalTail 0 1 (i.skip 1)
      else wholeNumber v j false
    else decimalTail 0 1 (i.skip 1)
  else
    let (v, n, j) := digitRun 10 true size i 0 0
    decimalTail v n j

/-! ## Strings and templates -/

/-- Reads an escape that begins with an octal digit. -/
def octalEscape (i : Cursor) : Nat × Cursor :=
  let isOctal (c : Char) : Bool := '0' ≤ c && c ≤ '7'
  let a := digitValue i.char
  let c := i.charAfter 1
  let b := 8 * a + digitValue c
  let d := i.charAfter 2
  if !isOctal c then (a, i.skip 1)
  else if b ≥ 32 || !isOctal d then (b, i.skip 2)
  else (8 * b + digitValue d, i.skip 3)

/-- What an escape stands for, and the place after it; `none` for one that is malformed.  The
cursor is at the character after the backslash. -/
def escapeAt (template : Bool) (i : Cursor) : Parse (Option (List Nat × Cursor)) := do
  let c := i.char
  let one (n : Nat) : Parse (Option (List Nat × Cursor)) := return some ([n], i.skip 1)
  match c with
  | 'b' => one 8
  | 'f' => one 12
  | 'n' => one 10
  | 'r' => one 13
  | 't' => one 9
  | 'v' => one 11
  | 'x' => return (hexDigits 2 (i.skip 1) 0).map fun n => ([n], i.skip 3)
  | 'u' => return (unicodeEscape (i.skip 1)).map fun (n, j) => ([n], j)
  | '\r' => return some ([], if i.charAfter 1 == '\n' then i.skip 2 else i.skip 1)
  | '\n' => return some ([], i.skip 1)
  | _ =>
    if c.isDigit then
      let strict ← isStrict
      if !strict && !template then
        if c ≥ '8' then one c.toNat
        else
          let (n, j) := octalEscape i
          return some ([n], j)
      else if c == '0' && !(i.charAfter 1).isDigit then one 0
      else if c ≥ '8' || template then return none
      else fail "octal escape sequences are not allowed in strict mode"
    else if c.toNat == 0x2028 || c.toNat == 0x2029 then return some ([], i.skip 1)
    else one c.toNat

/-- The value of a string or of a part of a template up to its end, and the place after that;
`none` if an escape is malformed. -/
def stringBody (close : Char) : Nat → Cursor → Units → Parse (Option (Units × Cursor))
  | 0, _, _ => fail "unexpected end of string"
  | fuel + 1, i, acc => do
    if i.atEnd then fail "unexpected end of string"
    let c := i.char
    let template := close.toNat == 0x60
    if c == close then return some (acc, i.skip 1)
    if template && c == '$' && i.charAfter 1 == '\x7b' then return some (acc, i.skip 2)
    if c == '\\' then
      if (i.skip 1).atEnd then fail "unexpected end of string"
      match ← escapeAt template (i.skip 1) with
      | none => return none
      | some (codes, j) =>
        let e := i.charAfter 1
        if codes.isEmpty && !template && (e == '\n' || e == '\r') then newlineBefore j
        stringBody close fuel j (codes.foldl Units.pushCode acc)
    else if c == '\r' && template then
      let j := if i.charAfter 1 == '\n' then i.skip 2 else i.skip 1
      stringBody close fuel j (acc.push 10)
    else if (c == '\n' || c == '\r') && !template then fail "unexpected end of string"
    else stringBody close fuel (i.skip 1) (Units.pushCode acc c.toNat)

/-- Reads a string from its quote on. -/
def string (i : Cursor) : Parse (Token × Cursor) := do
  match ← stringBody i.char (← get).size (i.skip 1) #[] with
  | some (s, j) => return (.string s, j)
  | none => fail "malformed escape sequence in string literal"

/-- Reads a part of a template as it is written. -/
def templateBody : Nat → Cursor → Units → Parse (Token × Cursor)
  | 0, _, _ => fail "unexpected end of string"
  | fuel + 1, i, acc => do
    if i.atEnd then fail "unexpected end of string"
    let c := i.char
    if c.toNat == 0x60 then return (.template acc true, i.skip 1)
    if c == '$' && i.charAfter 1 == '\x7b' then return (.template acc false, i.skip 2)
    let (acc, i) := if c == '\\' then (acc.push 0x5C, i.skip 1) else (acc, i)
    if i.atEnd then fail "unexpected end of string"
    let c := i.char
    if c == '\r' || c == '\n' then
      let j := if c == '\r' && i.charAfter 1 == '\n' then i.skip 2 else i.skip 1
      newlineBefore j
      templateBody fuel j (acc.push 10)
    else templateBody fuel (i.skip 1) (Units.pushCode acc c.toNat)

/-! ## Tokens -/

/-- Punctuation, longer ones before their beginnings. -/
def punctuation : List String :=
  [">>>=", "...", "===", "!==", "**=", "<<=", ">>=", ">>>", "&&=", "||=", "??=", "=>", "==", "!=",
    "++", "--", "+=", "-=", "*=", "/=", "%=", "&=", "|=", "^=", "<<", ">>", "&&", "||", "??", "**",
    "<=", ">=", "?."]

/-- The longest punctuation at a place. -/
def punct (i : Cursor) : Token × Cursor :=
  match punctuation.find? fun t => t.toList.isPrefixOf i.rest with
  | some t =>
    if t == "?." && (i.charAfter 2).isDigit then (.punct "?", i.skip 1)
    else (.punct t, i.skip t.length)
  | none => (.punct (String.singleton i.char), i.skip 1)

/-- Reads the token at a place. -/
def tokenAt (i : Cursor) : Parse (Token × Cursor) := do
  let size := (← get).size
  if i.atEnd then return (.eof, i)
  let c := i.char
  if c == '\'' || c == '"' then string i
  else if c.toNat == 0x60 then templateBody size (i.skip 1) #[]
  else if isIdentStart c then
    let (j, name, escaped) := nameRest size (i.skip 1) (String.singleton c) false
    return (← wordToken name escaped, j)
  else if c.isDigit then number i
  else if c == '.' && (i.charAfter 1).isDigit then decimalTail 0 0 i
  else if c == '#' then
    let d := i.charAfter 1
    if isIdentStart d && !(i.skip 1).atEnd then
      let (j, name, _) := nameRest size (i.skip 2) (String.singleton d) false
      return (.privateName name, j)
    else fail "invalid first character of private name"
  else if c == '\\' && i.charAfter 1 == 'u' then
    match unicodeEscape (i.skip 2) with
    | some (n, j) =>
      if Text.Identifier.isStart n then
        let (j, name, _) := nameRest size j (String.singleton (Char.ofNat n)) true
        return (← wordToken name true, j)
      else return (.punct "\\", i.skip 1)
    | none => return (.punct "\\", i.skip 1)
  else if c.toNat ≥ 0x80 then fail "unexpected character"
  else return punct i

/-- Passes the present token. -/
def next : Parse Unit := do
  modify fun s => { s with lastLine := s.tokenLine, lastEnd := s.here.pos, newline := false }
  let s ← get
  let i ← skipSpace (s.size + 1) s.here
  modify fun s => { s with
    start := i, tokenLine := s.line, tokenLineStart := s.lineStart, here := i }
  let (t, j) ← tokenAt i
  modify fun s => { s with token := t, here := j }

/-- Reads the part of a template that follows the closing brace of an embedded expression. -/
def templatePart : Parse Unit := do
  modify fun s => { s with newline := false, lastLine := s.tokenLine }
  let s ← get
  let (t, j) ← templateBody s.size s.here #[]
  modify fun s => { s with token := t, here := j }

/-- Reads the body of a regular expression. -/
def regexpBody : Nat → Cursor → Bool → Units → Parse (Units × Cursor)
  | 0, _, _, _ => fail "unexpected end of regexp"
  | fuel + 1, i, inClass, acc => do
    if i.atEnd then fail "unexpected end of regexp"
    let c := i.char
    if isNewline c then fail "unexpected line terminator in regexp"
    if c == '/' && !inClass then return (acc, i.skip 1)
    if c == '\\' then
      if (i.skip 1).atEnd then fail "unexpected end of regexp"
      let d := i.charAfter 1
      if isNewline d then fail "unexpected line terminator in regexp"
      regexpBody fuel (i.skip 2) inClass (Units.pushCode (acc.push 0x5C) d.toNat)
    else
      let inClass := if c == '[' then true else if c == ']' then false else inClass
      regexpBody fuel (i.skip 1) inClass (Units.pushCode acc c.toNat)

/-- Reads the flags of a regular expression. -/
def regexpFlags : Nat → Cursor → Units → Units × Cursor
  | 0, i, acc => (acc, i)
  | fuel + 1, i, acc =>
    let c := i.char
    if isIdentPart c && !i.atEnd then regexpFlags fuel (i.skip 1) (Units.pushCode acc c.toNat)
    else (acc, i)

/-- Reads the present slash as the start of a regular expression. -/
def regexp : Parse Unit := do
  let s ← get
  let (body, i) ← regexpBody s.size (s.start.skip 1) false #[]
  let (flags, i) := regexpFlags s.size i #[]
  modify fun s => { s with token := .regexp body flags, here := i }

/-- Reads the token after the present one, without passing anything; also whether a line ends
between the two. -/
def peek : Parse (Token × Bool) := do
  let s ← get
  modify fun s => { s with newline := false }
  let i ← skipSpace (s.size + 1) s.here
  let newline := (← get).newline
  let t ← try (·.1) <$> tokenAt i catch _ => pure (.punct "")
  set s
  return (t, newline)

end ScriptHost.ProtoScript.Lexer
