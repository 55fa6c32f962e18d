import ScriptHost.TableScript.Parser.State

/-!
# Tokens

The lexer reads one token at a time.  A token's text is kept for messages; for a string it is what was
read so far, with escapes replaced.

* `Lexer.next` — passes the present token.
* `Lexer.peek` — looks at the token after the present one.
-/

namespace ScriptHost.TableScript.Lexer

open Text (Bytes)
open Parse

/-! ## Bytes -/

/-- The byte at the present position; `none` at the end. -/
def current : Parse (Option UInt8) := do
  let s ← get
  return s.text[s.pos]?

/-- The byte after the present one. -/
def following : Parse (Option UInt8) := do
  let s ← get
  return s.text[s.pos + 1]?

def skip (n : Nat := 1) : Parse Unit := modify fun s => { s with pos := s.pos + n }

/-- The character of a byte. -/
def charOf (b : UInt8) : Char := Char.ofNat b.toNat

/-- Whether the present byte is the given character. -/
def isAt (c : Char) : Parse Bool := return (← current).map charOf == some c

/-- Whether the present byte has a property. -/
def satisfies (p : Char → Bool) : Parse Bool := return ((← current).map fun b => p (charOf b)).getD false

def isNewline (c : Char) : Bool := c == '\n' || c == '\r'

def isLetter (c : Char) : Bool := c.isAlpha || c == '_'

def isNameChar (c : Char) : Bool := c.isAlphanum || c == '_'

/-- Passes the end of a line; two different marks of an end are one. -/
def newline : Parse Unit := do
  let first ← current
  skip
  match first, ← current with
  | some a, some b => if isNewline (charOf b) && a != b then skip
  | _, _ => pure ()
  modify fun s => { s with line := s.line + 1 }

/-- Repeats a step, at most once for every byte of the text and once more. -/
def repeatStep (step : Parse Bool) : Parse Unit := do
  let rec go : Nat → Parse Unit
    | 0 => return
    | n + 1 => do if ← step then go n
  go ((← get).text.size + 2)

/-- The bytes from a position up to the present one. -/
def textFrom (start : Nat) : Parse Bytes := do
  let s ← get
  return s.text.slice start s.pos

/-- Passes all bytes with a property. -/
def skipWhile (p : Char → Bool) : Parse Unit := repeatStep do
  if ← satisfies p then
    skip
    return true
  return false

/-! ## Strings -/

/-- Fails near what was read of a token. -/
def failToken {α : Type} (message : String) (text : Bytes) : Parse α :=
  failWith (.ofString message) (some (.ofString "'" ++ text.untilZero ++ .ofString "'"))

/-- Fails at the end of the text. -/
def failEnd {α : Type} (message : String) : Parse α :=
  failWith (.ofString message) (some (.ofString "<eof>"))

/-- Checks a condition on an escape; its text so far and the present byte are shown otherwise. -/
def checkEscape (ok : Bool) (message : String) (text : Bytes) : Parse Unit := do
  if !ok then
    let text := match ← current with
      | some b => text.push b
      | none => text
    failToken message text

/-- Passes a byte and takes it into a text. -/
def keep (text : Bytes) : Parse Bytes := do
  match ← current with
  | some b =>
    skip
    return text.push b
  | none => return text

/-- The value of a hexadecimal digit. -/
def hexDigit (text : Bytes) : Parse Nat := do
  let value := (← current).bind fun b => Number.hexValue? (charOf b)
  checkEscape value.isSome "hexadecimal digit expected" text
  return value.getD 0

/-- The bytes of a code point, which may have up to 31 bits. -/
def encodePoint (n : Nat) : Bytes :=
  if n < 0x80 then .ofList [n.toUInt8]
  else go 6 n 0x3F []
where
  /-- Continuation bytes are written from the last one while they do not fit into the first. -/
  go : Nat → Nat → Nat → List UInt8 → Bytes
    | 0, _, _, acc => .ofList acc
    | fuel + 1, n, limit, acc =>
      let acc := (0x80 + n % 64).toUInt8 :: acc
      let n := n / 64
      let limit := limit / 2
      if n > limit then go fuel n limit acc
      else .ofList ((256 - 2 * (limit + 1) + n).toUInt8 :: acc)

/-- The code point in an escape with braces; `text` is what messages show. -/
def codePoint (text : Bytes) : Parse Nat := do
  let text ← keep text
  checkEscape (← isAt '\x7b') "missing '\x7b'" text
  let text ← keep text
  let first ← hexDigit text
  let text ← keep text
  let rec digits : Nat → Nat → Bytes → Parse (Nat × Bytes)
    | 0, value, text => return (value, text)
    | fuel + 1, value, text => do
      if ← satisfies Number.isHexDigit then
        checkEscape (value ≤ 0x7FFFFFF) "UTF-8 value too large" text
        let d ← hexDigit text
        digits fuel (16 * value + d) (← keep text)
      else return (value, text)
  let (value, text) ← digits 16 first text
  checkEscape (← isAt '\x7d') "missing '\x7d'" text
  skip
  return value

/-- A byte written in up to three decimal digits. -/
def decimalByte (text : Bytes) : Parse Nat := do
  let rec digits : Nat → Nat → Bytes → Parse (Nat × Bytes)
    | 0, value, text => return (value, text)
    | fuel + 1, value, text => do
      match ← current with
      | some b =>
        if (charOf b).isDigit then
          skip
          digits fuel (10 * value + (b.toNat - 48)) (text.push b)
        else return (value, text)
      | none => return (value, text)
  let (value, text) ← digits 3 0 text
  checkEscape (value ≤ 255) "decimal escape too large" text
  return value

/-- The bytes of single-letter escapes. -/
def simpleEscape? : Char → Option UInt8
  | 'a' => some 7
  | 'b' => some 8
  | 'f' => some 12
  | 'n' => some 10
  | 'r' => some 13
  | 't' => some 9
  | 'v' => some 11
  | '\\' => some 92
  | '"' => some 34
  | '\'' => some 39
  | _ => none

/-- An escape after its backslash; the text so far and the text with what the escape stands for. -/
def escape (text : Bytes) : Parse Bytes := do
  let shown := text.push 92
  match ← current with
  | none => return text
  | some b =>
    let c := charOf b
    match simpleEscape? c with
    | some v =>
      skip
      return text.push v
    | none =>
      if c == 'x' then
        let shown ← keep shown
        let high ← hexDigit shown
        let shown ← keep shown
        let low ← hexDigit shown
        skip
        return text.push (16 * high + low).toUInt8
      else if c == 'u' then
        return text ++ encodePoint (← codePoint shown)
      else if isNewline c then
        newline
        return text.push 10
      else if c == 'z' then
        skip
        repeatStep do
          if ← satisfies isNewline then
            newline
            return true
          else if ← satisfies Number.isSpace then
            skip
            return true
          else return false
        return text
      else
        checkEscape c.isDigit "invalid escape sequence" shown
        return text.push (← decimalByte shown).toUInt8

/-- A string between quotes: the value, and the text with its quotes. -/
def shortString (quote : UInt8) : Parse (Token × Bytes) := do
  skip
  let rec go : Nat → Bytes → Parse Bytes
    | 0, text => return text
    | fuel + 1, text => do
      match ← current with
      | none => failEnd "unfinished string"
      | some b =>
        if b == quote then
          skip
          return text.push b
        else if isNewline (charOf b) then failToken "unfinished string" text
        else if b == 92 then
          skip
          go fuel (← escape text)
        else
          skip
          go fuel (text.push b)
  let text ← go ((← get).text.size + 2) (Bytes.ofList [quote])
  return (.string (text.slice 1 (text.size - 1)), text)

/-- The level of a long bracket at the present position: the number of equality signs, and whether a
second bracket follows them. -/
def bracketLevel (bracket : Char) : Parse (Nat × Bool) := do
  let s ← get
  let rec signs : Nat → Nat → Nat
    | 0, n => n
    | fuel + 1, n => if s.text[s.pos + 1 + n]? == some 61 then signs fuel (n + 1) else n
  let n := signs s.text.size 0
  return (n, (s.text[s.pos + 1 + n]?).map charOf == some bracket)

/-- What stands between long brackets of a level, and the whole text.  `what` is the word of messages. -/
def longText (level : Nat) (what : String) : Parse (Bytes × Bytes) := do
  let start := (← get).line
  skip (level + 2)
  if ← satisfies isNewline then newline
  let opening := Bytes.ofList (91 :: List.replicate level 61 ++ [91])
  let closing := Bytes.ofList (93 :: List.replicate level 61 ++ [93])
  let rec go : Nat → Bytes → Parse Bytes
    | 0, text => return text
    | fuel + 1, text => do
      match ← current with
      | none =>
        failEnd ("unfinished long " ++ what ++ " (starting at line " ++ toString start ++ ")")
      | some b =>
        if b == 93 && (← bracketLevel ']') == (level, true) then
          skip (level + 2)
          return text
        else if isNewline (charOf b) then
          newline
          go fuel (text.push 10)
        else
          skip
          go fuel (text.push b)
  let text ← go ((← get).text.size + 2) Bytes.empty
  return (text, opening ++ text ++ closing)

/-! ## Other tokens -/

/-- A number, read as far as digits and marks of exponents go. -/
def numeral : Parse (Token × Bytes) := do
  let start := (← get).pos
  let isHex := (← isAt '0') && (match (← following).map charOf with
    | some c => c == 'x' || c == 'X'
    | none => false)
  skip (if isHex then 2 else 1)
  repeatStep do
    let isMark ← satisfies fun c => if isHex then c == 'p' || c == 'P' else c == 'e' || c == 'E'
    if isMark then
      skip
      if ← satisfies fun c => c == '-' || c == '+' then skip
      return true
    else if ← satisfies fun c => Number.isHexDigit c || c == '.' then
      skip
      return true
    else return false
  if ← satisfies isLetter then skip
  let text ← textFrom start
  match Number.parse? text with
  | some (.inl i) => return (.int i, text)
  | some (.inr x) => return (.float x, text)
  | none => failToken "malformed number" text

/-- The reserved words. -/
def reservedWords : List String := [
  "and", "break", "do", "else", "elseif", "end", "false", "for", "function", "goto", "if", "in",
  "local", "nil", "not", "or", "repeat", "return", "then", "true", "until", "while"]

/-- A name or a reserved word. -/
def word : Parse (Token × Bytes) := do
  let start := (← get).pos
  skipWhile isNameChar
  let text ← textFrom start
  match reservedWords.find? fun w => Bytes.ofString w == text with
  | some w => return (.fixed w, text)
  | none => return (.name text, text)

/-- Operators and brackets; of those that begin alike the longer ones come first. -/
def operators : List String := [
  "...", "..", "==", "<=", ">=", "~=", "::", "<<", ">>", "//", "+", "-", "*", "/", "%", "^", "#",
  "&", "~", "|", "<", ">", "=", "(", ")", "\x7b", "\x7d", "[", "]", ";", ":", ",", "."]

/-- An operator, or a byte that begins no token. -/
def operator (b : UInt8) : Parse (Token × Bytes) := do
  let s ← get
  match operators.find? fun o => s.text.matchesAt (.ofString o) s.pos with
  | some o =>
    skip o.length
    return (.fixed o, .ofString o)
  | none =>
    skip
    return (.stray b, .ofList [b])

/-- Passes a comment after its two dashes. -/
def comment : Parse Unit := do
  if ← isAt '[' then
    let (level, isLong) ← bracketLevel '['
    if isLong then
      let _ ← longText level "comment"
      return
  skipWhile fun c => !isNewline c

/-- The token at the present position, after white space and comments. -/
def scan : Nat → Parse (Token × Bytes)
  | 0 => return (.eof, Bytes.empty)
  | fuel + 1 => do
    match ← current with
    | none => return (.eof, Bytes.empty)
    | some b =>
      let c := charOf b
      if isNewline c then
        newline
        scan fuel
      else if Number.isSpace c then
        skip
        scan fuel
      else if c == '-' && (← following).map charOf == some '-' then
        skip 2
        comment
        scan fuel
      else if c == '[' then
        let (level, isLong) ← bracketLevel '['
        if isLong then
          let (value, text) ← longText level "string"
          return (.string value, text)
        else if level > 0 then
          failToken "invalid long string delimiter" (.ofList (91 :: List.replicate level 61))
        else operator b
      else if c == '"' || c == '\'' then shortString b
      else if c.isDigit || (c == '.' && (((← following).map charOf).map Char.isDigit).getD false) then
        numeral
      else if isLetter c then word
      else operator b

/-- Passes the present token. -/
def next : Parse Unit := do
  let s ← get
  MonadState.set { s with lastLine := s.line }
  match s.ahead with
  | some (token, text) =>
    modify fun s => { s with token, tokenText := text, ahead := none }
  | none =>
    let (token, text) ← scan (s.text.size + 2)
    modify fun s => { s with token, tokenText := text }

/-- The token after the present one. -/
def peek : Parse Token := do
  let s ← get
  match s.ahead with
  | some (token, _) => return token
  | none =>
    let (token, text) ← scan (s.text.size + 2)
    modify fun s => { s with ahead := some (token, text) }
    return token

end ScriptHost.TableScript.Lexer
