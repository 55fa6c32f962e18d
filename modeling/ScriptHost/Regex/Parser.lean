import ScriptHost.Regex.Syntax

/-!
# Regular expressions: reading

The grammar is that of script regular expressions: groups, named groups, look-around in both
directions, back references, lazy and greedy repetitions, classes and escapes.  Without the unicode
flag the lenient rules of old scripts hold: an escape that means nothing stands for its character, and
a brace that begins no repetition for itself.

* `Parser` — readers over an array of code points; a failure is the text of the error.
* `Regex.parse` — reads a complete expression.
-/

namespace ScriptHost.Regex

open Text

/-- The state of a reader. -/
structure ReaderState where
  pos : Nat := 0
  /-- Groups begun so far, the whole match included. -/
  groups : Nat := 1
  names : List (String × Nat) := []

/-- What a reader reads from. -/
structure Source where
  text : Array Nat
  unicode : Bool
  /-- The number of groups in the whole expression, the whole match included. -/
  allGroups : Nat
  /-- The names of groups in the whole expression. -/
  allNames : List (String × Nat)

/-- A reader; it fails with the text of an error. -/
abbrev Parser := ReaderT Source (EStateM String ReaderState)

namespace Parser

/-- The code point at an offset from the present position, or 0 at the end. -/
def peek (offset : Nat := 0) : Parser Nat := do
  let s ← get
  return (← read).text.getD (s.pos + offset) 0

def advance (n : Nat := 1) : Parser Unit := modify fun s => { s with pos := s.pos + n }

def atEnd : Parser Bool := do return (← get).pos ≥ (← read).text.size

def code (c : Char) : Nat := c.toNat

def isDigit (c : Nat) : Bool := 0x30 ≤ c && c ≤ 0x39

/-- The value of a hexadecimal digit. -/
def hexDigit? (c : Nat) : Option Nat :=
  if isDigit c then some (c - 0x30)
  else if 0x41 ≤ c && c ≤ 0x46 then some (c - 0x37)
  else if 0x61 ≤ c && c ≤ 0x66 then some (c - 0x57)
  else none

def expect (c : Char) : Parser Unit := do
  if (← peek) == code c && !(← atEnd) then advance
  else throw ("expecting '" ++ String.singleton c ++ "'")

/-- Reads decimal digits; the second part tells how many there were. -/
def digits : Nat → Nat → Nat → Parser (Nat × Nat)
  | 0, acc, n => return (acc, n)
  | fuel + 1, acc, n => do
    let c ← peek
    if isDigit c then
      advance
      digits fuel (10 * acc + (c - 0x30)) (n + 1)
    else return (acc, n)

/-- A number; values beyond the greatest 32-bit integer are cut to it. -/
def number : Parser Nat := do
  let s ← get
  let (n, _) ← digits ((← read).text.size - s.pos) 0 0
  return min n (0x7FFFFFFF)

/-- The hexadecimal digits at an offset, exactly `n` of them. -/
def hexAt (offset : Nat) : Nat → Nat → Parser (Option Nat)
  | 0, acc => return some acc
  | n + 1, acc => do
    match hexDigit? (← peek offset) with
    | some d => hexAt (offset + 1) n (16 * acc + d)
    | none => return none

/-- The hexadecimal digits up to a closing brace, from an offset on; their value and number. -/
def hexUntilBrace : Nat → Nat → Nat → Nat → Parser (Option (Nat × Nat))
  | 0, _, _, _ => return none
  | fuel + 1, offset, acc, n => do
    let c ← peek offset
    if c == code '\x7d' && n > 0 then return some (acc, n)
    match hexDigit? c with
    | some d =>
      if 16 * acc + d > 0x10FFFF then return none
      hexUntilBrace fuel (offset + 1) (16 * acc + d) (n + 1)
    | none => return none

/-! ## Escapes and classes -/

/-- One member of a class, or an atom: a code point or a set. -/
inductive Atom where
  | code (c : Nat)
  | set (ranges : List (Nat × Nat))

/-- What the reading of a character escape gives. -/
inductive Escape where
  | code (c : Nat)
  | malformed
  | notAnEscape

/-- Reads the part of a `u` or `x` escape after the letter. -/
def hexEscape (width : Nat) : Parser Escape := do
  let unicode := (← read).unicode
  if (← peek) == code '\x7b' && unicode then
    match ← hexUntilBrace 8 1 0 0 with
    | some (c, n) =>
      advance (n + 2)
      return .code c
    | none => return .malformed
  else
    match ← hexAt 0 width 0 with
    | none => return .malformed
    | some c =>
      advance width
      if unicode && 0xD800 ≤ c && c < 0xDC00 && (← peek) == code '\\' && (← peek 1) == code 'u' then
        match ← hexAt 2 4 0 with
        | some d =>
          if 0xDC00 ≤ d && d < 0xE000 then
            advance 6
            return .code (0x10000 + (c - 0xD800) * 0x400 + (d - 0xDC00))
          else return .code c
        | none => return .code c
      else return .code c

/-- Reads an octal escape after its first digit. -/
def octalTail (first : Nat) : Parser Nat := do
  let isOctal (c : Nat) : Bool := 0x30 ≤ c && c ≤ 0x37
  let c ← peek
  if isOctal c then
    advance
    let v := 8 * first + (c - 0x30)
    let d ← peek
    if v < 32 && isOctal d then
      advance
      return 8 * v + (d - 0x30)
    else return v
  else return first

/-- Reads a character escape, after the backslash; nothing is taken unless it is one. -/
def escape : Parser Escape := do
  let unicode := (← read).unicode
  let start := (← get).pos
  let c ← peek
  let simple (n : Nat) : Parser Escape := do
    advance
    return .code n
  let back (r : Escape) : Parser Escape := do
    match r with
    | .code _ => return r
    | _ =>
      modify fun s => { s with pos := start }
      return r
  if c == code 'b' then simple 8
  else if c == code 'f' then simple 12
  else if c == code 'n' then simple 10
  else if c == code 'r' then simple 13
  else if c == code 't' then simple 9
  else if c == code 'v' then simple 11
  else if c == code 'x' then
    advance
    back (← hexEscape 2)
  else if c == code 'u' then
    advance
    back (← hexEscape 4)
  else if 0x30 ≤ c && c ≤ 0x37 then
    if unicode then
      if c != 0x30 || isDigit (← peek 1) then return .malformed
      else simple 0
    else
      advance
      return .code (← octalTail (c - 0x30))
  else return .notAnEscape

/-- Reads a single character. -/
def plain : Parser Atom := do
  let c ← peek
  advance
  return .code c

/-- The ranges of the named sets. -/
def setOf? (c : Nat) : Option (List (Nat × Nat)) :=
  if c == code 'd' then some digitRanges
  else if c == code 'D' then some (gaps 0 digitRanges)
  else if c == code 's' then some spaceRanges
  else if c == code 'S' then some (gaps 0 spaceRanges)
  else if c == code 'w' then some wordRanges
  else if c == code 'W' then some (gaps 0 wordRanges)
  else none

/-- Characters that may be escaped in every mode. -/
def isPatternSyntax (c : Nat) : Bool := ("^$\\.*+?()[]\x7b\x7d|/".toList.map Char.toNat).contains c

/-- Reads one atom of a class or of a sequence. -/
def atom (inClass : Bool) : Parser Atom := do
  let unicode := (← read).unicode
  if ← atEnd then throw "unexpected end"
  let c ← peek
  if c != code '\\' then plain
  else
    advance
    if ← atEnd then throw "unexpected end"
    let c ← peek
    match setOf? c with
    | some ranges =>
      advance
      return .set ranges
    | none =>
      if c == code 'c' then
        let d ← peek 1
        let letter := (0x41 ≤ d && d ≤ 0x5A) || (0x61 ≤ d && d ≤ 0x7A)
        if letter || ((isDigit d || d == code '_') && inClass && !unicode) then
          advance 2
          return .code (d % 32)
        else if unicode then throw "invalid escape sequence in regular expression"
        else return .code (code '\\')
      else if (c == code 'p' || c == code 'P') && unicode then
        throw "unknown unicode property name"
      else match ← escape with
        | .code c => return .code c
        | .notAnEscape =>
          if isPatternSyntax c || !unicode || (inClass && c == code '-') then plain
          else throw "invalid escape sequence in regular expression"
        | .malformed =>
          if unicode then throw "invalid escape sequence in regular expression" else plain

/-- Reads the members of a class up to the closing bracket. -/
def classMembers : Nat → List (Nat × Nat) → Parser (List (Nat × Nat))
  | 0, acc => return acc
  | fuel + 1, acc => do
    let unicode := (← read).unicode
    if (← peek) == code ']' && !(← atEnd) then return acc
    let first ← atom true
    let alone : List (Nat × Nat) := match first with
      | .code c => [(c, c)]
      | .set ranges => ranges
    if (← peek) == code '-' && (← peek 1) != code ']' then
      match first with
      | .set _ =>
        if unicode then throw "invalid class range"
        classMembers fuel (alone ++ acc)
      | .code lo =>
        let start := (← get).pos
        advance
        match ← atom true with
        | .set _ =>
          if unicode then throw "invalid class range"
          modify fun s => { s with pos := start }
          classMembers fuel (alone ++ acc)
        | .code hi =>
          if hi < lo then throw "invalid class range"
          classMembers fuel ((lo, hi) :: acc)
    else classMembers fuel (alone ++ acc)

/-- Reads a class, from its opening bracket. -/
def charClass : Parser Node := do
  advance
  let inverted := (← peek) == code '^'
  if inverted then advance
  let ranges ← classMembers ((← read).text.size + 1) []
  advance
  return .set ⟨inverted, ranges⟩

/-! ## Group names -/

/-- Whether a code point may stand in a group name. -/
def isNamePart (c : Nat) : Bool :=
  c == code '$' || (rangesContain wordRanges c) || c ≥ 0x80

/-- Reads a group name up to its closing bracket. -/
def nameChars : Nat → String → Parser (Option String)
  | 0, _ => return none
  | fuel + 1, acc => do
    let c ← peek
    if c == code '>' then
      advance
      return if acc.isEmpty then none else some acc
    else if c == code '\\' && (← peek 1) == code 'u' then
      advance 2
      match ← hexEscape 4 with
      | .code c => nameChars fuel (acc.push (Char.ofNat c))
      | _ => return none
    else if isNamePart c && !(acc.isEmpty && isDigit c) then
      advance
      nameChars fuel (acc.push (Char.ofNat c))
    else return none

/-- Reads a group name; nothing is taken unless it is one. -/
def groupName : Parser (Option String) := do
  let start := (← get).pos
  match ← nameChars ((← read).text.size + 1) "" with
  | some n => return some n
  | none =>
    modify fun s => { s with pos := start }
    return none

/-! ## Terms -/

/-- Makes the node of an atom. -/
def Atom.node : Atom → Node
  | .code c => .char c
  | .set ranges => .set ⟨false, ranges⟩

/-- A node, and whether a repetition may follow it. -/
abbrev Term := Node × Bool

/-- Reads a capturing group, after what opens it. -/
def capture (inner : Parser Node) : Parser Term := do
  let index := (← get).groups
  modify fun s => { s with groups := s.groups + 1 }
  let body ← inner
  expect ')'
  return (.group index body, true)

/-- Reads a parenthesised term. -/
def parenthesised (inner : Parser Node) : Parser Term := do
  if (← peek 1) != code '?' then
    advance
    capture inner
  else
    let c ← peek 2
    let d ← peek 3
    if c == code ':' then
      advance 3
      let body ← inner
      expect ')'
      return (body, true)
    else if c == code '=' || c == code '!' then
      advance 3
      let body ← inner
      expect ')'
      return (.look false (c == code '!') body, !(← read).unicode)
    else if c == code '<' && (d == code '=' || d == code '!') then
      advance 4
      let body ← inner
      expect ')'
      return (.look true (d == code '!') body, false)
    else if c == code '<' then
      advance 3
      match ← groupName with
      | none => throw "invalid group name"
      | some name =>
        let s ← get
        if s.names.any (·.1 == name) then throw "duplicate group name"
        set { s with names := s.names ++ [(name, s.groups)] }
        capture inner
    else throw "invalid group"

/-- Reads a back reference by name, from its backslash. -/
def namedReference : Parser Term := do
  let strict := (← read).unicode || !(← read).allNames.isEmpty
  let otherwise (message : String) : Parser Term := do
    if strict then throw message
    return ((← atom false).node, true)
  if (← peek 2) != code '<' then otherwise "expecting group name"
  else
    let start := (← get).pos
    advance 3
    match ← groupName with
    | none =>
      modify fun s => { s with pos := start }
      otherwise "invalid group name"
    | some name => match (← read).allNames.lookup name with
      | some i => return (.backReference i, true)
      | none =>
        modify fun s => { s with pos := start }
        otherwise "group name not defined"

/-- Reads a back reference by number, or an old octal escape, from its backslash. -/
def numberedReference : Parser Term := do
  advance
  let start := (← get).pos
  let n ← number
  if n < (← read).allGroups then return (.backReference n, true)
  else if (← read).unicode then throw "back reference out of range in regular expression"
  else
    modify fun s => { s with pos := start }
    let c ← peek
    if c ≤ 0x37 then
      advance
      let v := c - 0x30
      let d ← peek
      if 0x30 ≤ d && d ≤ 0x37 then
        advance
        let w := 8 * v + (d - 0x30)
        let e ← peek
        if c ≤ 0x33 && 0x30 ≤ e && e ≤ 0x37 then
          advance
          return (.char (8 * w + (e - 0x30)), true)
        else return (.char w, true)
      else return (.char v, true)
    else
      advance
      return (.char c, true)

/-- Reads an escape that is `\0`, perhaps with octal digits. -/
def zeroEscape : Parser Term := do
  advance 2
  let c ← peek
  if (← read).unicode then
    if isDigit c then throw "invalid decimal escape in regular expression"
    return (.char 0, true)
  else if 0x30 ≤ c && c ≤ 0x37 then
    advance
    let v := c - 0x30
    let d ← peek
    if 0x30 ≤ d && d ≤ 0x37 then
      advance
      return (.char (8 * v + (d - 0x30)), true)
    else return (.char v, true)
  else return (.char 0, true)

/-- Whether the text after a brace has the form of a repetition. -/
def looksLikeCount : Parser Bool := do
  let start := (← get).pos
  advance
  let _ ← number
  if (← peek) == code ',' then
    advance
    let _ ← number
  let closed := (← peek) == code '\x7d'
  modify fun s => { s with pos := start }
  return closed

/-- Reads a term without its repetition. -/
def bareTerm (inner : Parser Node) : Parser Term := do
  let unicode := (← read).unicode
  let c ← peek
  let ordinary : Parser Term := do return ((← atom false).node, true)
  if c == code '^' then
    advance
    return (.lineStart, false)
  else if c == code '$' then
    advance
    return (.lineEnd, false)
  else if c == code '.' then
    advance
    return (.dot, true)
  else if c == code '\x7b' then
    if unicode then throw "syntax error"
    else if !isDigit (← peek 1) then ordinary
    else if ← looksLikeCount then throw "nothing to repeat"
    else ordinary
  else if c == code '*' || c == code '+' || c == code '?' then throw "nothing to repeat"
  else if c == code '(' then parenthesised inner
  else if c == code '\\' then
    let d ← peek 1
    if d == code 'b' || d == code 'B' then
      advance 2
      return (.wordBoundary (d == code 'B'), false)
    else if d == code 'k' then namedReference
    else if d == code '0' then zeroEscape
    else if 0x31 ≤ d && d ≤ 0x39 then numberedReference
    else ordinary
  else if c == code '[' then return (← charClass, true)
  else if (c == code ']' || c == code '\x7d') && unicode then throw "syntax error"
  else ordinary

/-- Reads the bounds of a repetition, if one follows. -/
def bounds : Parser (Option (Nat × Option Nat)) := do
  let c ← peek
  if c == code '*' then
    advance
    return some (0, none)
  else if c == code '+' then
    advance
    return some (1, none)
  else if c == code '?' then
    advance
    return some (0, some 1)
  else if c == code '\x7b' then
    let unicode := (← read).unicode
    if !isDigit (← peek 1) then
      if unicode then throw "invalid repetition count"
      return none
    let start := (← get).pos
    advance
    let lo ← number
    let mut hi : Option Nat := some lo
    if (← peek) == code ',' then
      advance
      if isDigit (← peek) then
        let n ← number
        if n < lo then throw "invalid repetition count"
        hi := some n
      else hi := none
    if (← peek) != code '\x7d' && !unicode then
      modify fun s => { s with pos := start }
      return none
    expect '\x7d'
    return some (lo, hi.bind fun n => if n ≥ 0x7FFFFFFF then none else some n)
  else return none

/-- Reads a term and the repetition that may follow it. -/
def term (inner : Parser Node) : Parser Node := do
  let first := (← get).groups
  let (node, repeatable) ← bareTerm inner
  if !repeatable then return node
  match ← bounds with
  | none => return node
  | some (lo, hi) =>
    let greedy := (← peek) != code '?'
    if !greedy then advance
    return .rep node lo hi greedy first (← get).groups

/-- Reads the terms of an alternative. -/
def alternative (inner : Parser Node) : Nat → Node → Parser Node
  | 0, acc => return acc
  | fuel + 1, acc => do
    if ← atEnd then return acc
    let c ← peek
    if c == code '|' || c == code ')' then return acc
    let t ← term inner
    alternative inner fuel (match acc with
      | .empty => t
      | _ => .seq acc t)

/-- Reads alternatives. -/
def alternatives (inner : Parser Node) (size : Nat) : Nat → Parser Node
  | 0 => return .empty
  | fuel + 1 => do
    let a ← alternative inner (size + 1) .empty
    if (← peek) == code '|' && !(← atEnd) then
      advance
      return .alt a (← alternatives inner size fuel)
    else return a

/-- Reads alternatives with groups nested up to a depth. -/
def disjunction (size : Nat) : Nat → Parser Node
  | 0 => throw "too many nested groups"
  | depth + 1 => alternatives (disjunction size depth) size (size + 1)

end Parser

/-! ## Complete expressions -/

/-- Counts the groups of an expression and lists their names, without reading the rest. -/
def scanGroups (text : Array Nat) : Nat → Nat → Bool → Nat → List (String × Nat) →
    Nat × List (String × Nat)
  | 0, _, _, n, names => (n, names)
  | fuel + 1, i, inClass, n, names =>
    if i ≥ text.size then (n, names)
    else
      let c := text.getD i 0
      if c == '\\'.toNat then scanGroups text fuel (i + 2) inClass n names
      else if inClass then scanGroups text fuel (i + 1) (c != ']'.toNat) n names
      else if c == '['.toNat then scanGroups text fuel (i + 1) true n names
      else if c == '('.toNat then
        if text.getD (i + 1) 0 != '?'.toNat then scanGroups text fuel (i + 1) false (n + 1) names
        else if text.getD (i + 2) 0 == '<'.toNat && text.getD (i + 3) 0 != '='.toNat
            && text.getD (i + 3) 0 != '!'.toNat then
          let name := ((text.toList.drop (i + 3)).takeWhile (· != '>'.toNat)).map Char.ofNat
          scanGroups text fuel (i + 3) false (n + 1) (names ++ [(String.ofList name, n)])
        else scanGroups text fuel (i + 1) false n names
      else scanGroups text fuel (i + 1) false n names

end ScriptHost.Regex

namespace ScriptHost

open Text Regex in
/-- Reads an expression, or gives the text of what is wrong with it. -/
def Regex.parse (pattern : Units) (flags : Flags) : Except String Regex :=
  let text := if flags.unicode then pattern.codes.toArray else pattern.map UInt16.toNat
  let (allGroups, allNames) := scanGroups text (text.size + 1) 0 false 1 []
  let source : Source := ⟨text, flags.unicode, allGroups, allNames⟩
  let reader : Parser Node := do
    let node ← Parser.disjunction text.size (text.size + 2)
    if ← Parser.atEnd then return node
    else throw "extraneous characters at the end"
  match (reader source).run {} with
  | .ok node s => .ok ⟨node, s.groups, s.names, flags⟩
  | .error e _ => .error e

end ScriptHost
