import ScriptHost.ProtoScript.Builtin.Member

/-!
# `JSON`
-/

namespace ScriptHost.ProtoScript.Builtin.Json

open Text (Units)

open Script

/-! ## Reading -/

/-- What is wrong with a text, and where; line and column count as for programs. -/
structure Fault where
  message : String
  at0 : Nat

/-- A reader of the text: it is given a position and answers a value and the next position. -/
abbrev Reader (α : Type) := Nat → Except Fault (α × Nat)

def skipBlank (text : Array Char) : Nat → Nat → Nat
  | 0, i => i
  | fuel + 1, i =>
    let c := text.getD i 'x'
    if c == ' ' || c == '\t' || c == '\n' || c == '\r' then skipBlank text fuel (i + 1) else i

/-- The next position that is not blank. -/
def next (text : Array Char) (i : Nat) : Nat := skipBlank text (text.size - i) i

def hexValue? (c : Char) : Option Nat :=
  if c.isDigit then some (c.toNat - 48)
  else if 'a' ≤ c && c ≤ 'f' then some (c.toNat - 87)
  else if 'A' ≤ c && c ≤ 'F' then some (c.toNat - 55)
  else none

/-- Reads the rest of a string after its quote. -/
def stringBody (text : Array Char) (start : Nat) : Nat → Nat → Units → Except Fault (Units × Nat)
  | 0, i, _ => .error ⟨"unexpected end of string", i⟩
  | fuel + 1, i, out =>
    match text[i]? with
    | none => .error ⟨"unexpected end of string", start⟩
    | some '"' => .ok (out, i + 1)
    | some '\\' =>
      let simple (code : Nat) := stringBody text start fuel (i + 2) (out.pushCode code)
      match text[i + 1]? with
      | some '"' => simple 0x22
      | some '\\' => simple 0x5C
      | some '/' => simple 0x2F
      | some 'b' => simple 0x08
      | some 'f' => simple 0x0C
      | some 'n' => simple 0x0A
      | some 'r' => simple 0x0D
      | some 't' => simple 0x09
      | some 'u' =>
        let digits := (text.extract (i + 2) (i + 6)).toList.mapM hexValue?
        match digits with
        | some [a, b, c, d] =>
          let v := ((a * 16 + b) * 16 + c) * 16 + d
          stringBody text start fuel (i + 6) (out.push v.toUInt16)
        | _ => .error ⟨"malformed escape sequence in string literal", start⟩
      | some c => simple c.toNat
      | none => .error ⟨"unexpected end of string", start⟩
    | some c =>
      if c.toNat < 0x20 then .error ⟨"invalid character in a JSON string", start⟩
      else stringBody text start fuel (i + 1) (out.pushCode c.toNat)

/-- Reads a number: a sign, a whole part without extra zeros, a fraction and an exponent. -/
def number (text : Array Char) (start : Nat) : Except Fault (Float × Nat) :=
  let fault : Except Fault (Float × Nat) := .error ⟨"invalid number literal", start⟩
  let negative := text.getD start ' ' == '-'
  let i := if negative then start + 1 else start
  let rest := (text.extract i text.size).toList
  let whole := rest.takeWhile Char.isDigit
  match whole with
  | [] => .error ⟨"unexpected token: '-'", start⟩
  | '0' :: _ :: _ => fault
  | _ =>
    let after := rest.dropWhile Char.isDigit
    let badFraction := match after with
      | '.' :: more => (more.takeWhile Char.isDigit).isEmpty
      | _ => false
    if badFraction then fault
    else match readDecimal? rest with
      | some (x, more) => .ok (if negative then -x else x, text.size - more.length)
      | none => fault

mutual

/-- Reads a value. -/
def value (text : Array Char) : Nat → Nat → Except Fault (Script Val × Nat)
  | 0, i => .error ⟨"stack overflow", i⟩
  | fuel + 1, i0 =>
    let i := next text i0
    let word (w : String) (v : Val) : Except Fault (Script Val × Nat) :=
      .ok (pure v, i + w.length)
    match text[i]? with
    | none => .error ⟨"unexpected end of input", i⟩
    | some '"' => do
      let (u, j) ← stringBody text i (text.size + 1) (i + 1) #[]
      return (pure (.str u), j)
    | some '[' =>
      let j := next text (i + 1)
      if text[j]? == some ']' then .ok (newArray #[], j + 1)
      else do
        let (items, k) ← elements text fuel j []
        return (do newArray (← items.mapM id).toArray, k)
    | some '\x7b' =>
      let j := next text (i + 1)
      if text[j]? == some '\x7d' then .ok ((do return .obj (← newObject)), j + 1)
      else do
        let (items, k) ← members text fuel j []
        let build : Script Val := do
          let id ← newObject
          for (key, v) in items do define id (.name key) (.plain (← v))
          return .obj id
        return (build, k)
    | some c =>
      if c == '-' || c.isDigit then do
        let (x, j) ← number text i
        return (pure (.num x), j)
      else
        let run := (text.extract i text.size).toList.takeWhile fun c =>
          c.isAlphanum || c == '_' || c == '$'
        let name := String.ofList run
        if name == "true" then word name (.bool true)
        else if name == "false" then word name (.bool false)
        else if name == "null" then word name .null
        else
          let shown := if name.isEmpty then String.singleton c else name
          .error ⟨"unexpected token: '" ++ shown ++ "'", i⟩

/-- Reads elements up to the closing bracket. -/
def elements (text : Array Char) : Nat → Nat → List (Script Val) →
    Except Fault (List (Script Val) × Nat)
  | 0, i, _ => .error ⟨"stack overflow", i⟩
  | fuel + 1, i, done => do
    let (v, j) ← value text fuel i
    let k := next text j
    match text[k]? with
    | some ',' => elements text fuel (next text (k + 1)) (v :: done)
    | some ']' => .ok ((v :: done).reverse, k + 1)
    | _ => .error ⟨"expecting ']'", k⟩

/-- Reads members up to the closing brace. -/
def members (text : Array Char) : Nat → Nat → List (String × Script Val) →
    Except Fault (List (String × Script Val) × Nat)
  | 0, i, _ => .error ⟨"stack overflow", i⟩
  | fuel + 1, i, done => do
    if text[i]? != some '"' then .error ⟨"expecting property name", i⟩
    let (u, j) ← stringBody text i (text.size + 1) (i + 1) #[]
    let k := next text j
    if text[k]? != some ':' then .error ⟨"expecting ':'", k⟩
    let (v, l) ← value text fuel (k + 1)
    let n := next text l
    match text[n]? with
    | some ',' => members text fuel (next text (n + 1)) ((u.toString, v) :: done)
    | some '\x7d' => .ok (((u.toString, v) :: done).reverse, n + 1)
    | _ => .error ⟨"expecting '\x7d'", n⟩

end

/-- The line of a position, from 1, and its column, from 0. -/
def placeOf (text : Array Char) (i : Nat) : Nat × Nat :=
  (text.extract 0 i).foldl (fun (l, c) d => if d == '\n' then (l + 1, 0) else (l, c + 1)) (1, 0)

/-- Applies a function to all parts of a value, the inner ones first. -/
def revive (f : Val) : Nat → Val → Key → Script Val
  | 0, _, _ => throw .exhausted
  | fuel + 1, holder, k => do
    let v ← get holder k
    match v with
    | .obj id =>
      let keys ← if (← MonadState.get).isArray v then do
          let n ← toLength (← getName v "length")
          pure ((List.range n).map Key.ofNat)
        else do pure ((← ownNames id).toList.map Key.name)
      for key in keys do
        let w ← revive f fuel v key
        if w.isUndefined then
          let _ ← delete id key false
        else
          let _ ← defineOwn id key (.ofProperty (.plain w)) false
    | _ => pure ()
    call f holder #[.ofKey k, v]

def parse (args : Array Val) : Script Val := do
  let source ← toText (arg args 0)
  let text := source.toList.toArray
  let fail (f : Fault) : Script Val := do
    let (line, column) := placeOf text f.at0
    throwSyntax f.message "<input>" line column
  match value text (text.size + 8) 0 with
  | .error f => fail f
  | .ok (build, i) =>
    let j := next text i
    if j < text.size then fail ⟨"unexpected data at the end", j⟩
    else
      let v ← build
      if (← MonadState.get).isCallable (arg args 1) then
        let holder ← newObject
        define holder (.name "") (.plain v)
        revive (arg args 1) 1000 (.obj holder) (.name "")
      else return v

/-! ## Writing -/

/-- Four hexadecimal digits. -/
def hex4 (n : Nat) : String :=
  let ds := Nat.toDigits 16 n
  String.ofList (List.replicate (4 - ds.length) '0' ++ ds)

/-- A text between quotes. -/
def quoted (u : Units) : Units :=
  let body := u.size.fold (fun i _ (out : Units) =>
    let c := u.at0 i
    let escape (d : UInt16) : Units := (out.push 0x5C).push d
    if c == 0x22 || c == 0x5C then escape c
    else if c == 0x08 then escape 0x62
    else if c == 0x0C then escape 0x66
    else if c == 0x0A then escape 0x6E
    else if c == 0x0D then escape 0x72
    else if c == 0x09 then escape 0x74
    else
      let high := Units.isHigh c
      let low := Units.isLow c
      let paired := (high && Units.isLow (u.at0 (i + 1)))
        || (low && i > 0 && Units.isHigh (u.at0 (i - 1)))
      if c < 0x20 || ((high || low) && !paired) then
        out ++ Units.ofString ("\\u" ++ hex4 c.toNat)
      else out.push c) #[]
  (#[0x22] ++ body).push 0x22

/-- How values are written. -/
structure Style where
  replacer : Val
  allowed : Option (List String)
  gap : Units

/-- The value that is written for a property: after `toJSON` and the replacer. -/
def prepared (s : Style) (holder : Val) (k : Key) (v : Val) : Script Val := do
  let v ← match v with
    | .obj _ | .big _ => do
      let f ← getName v "toJSON"
      if (← MonadState.get).isCallable f then call f v #[.ofKey k] else pure v
    | _ => pure v
  let v ← if s.replacer.isUndefined then pure v else call s.replacer holder #[.ofKey k, v]
  match v with
  | .obj id => match (← obj id).kind with
    | .wrapper (.num _) => return .num (← toNumber v)
    | .wrapper (.str _) => return .str (← toUnits v)
    | .wrapper (.bool b) => return .bool b
    | .wrapper (.big i) => return .big i
    | _ => return v
  | _ => return v

def joinUnits (separator : Units) : List Units → Units
  | [] => #[]
  | [u] => u
  | u :: rest => u ++ separator ++ joinUnits separator rest

/-- Puts written parts between brackets. -/
def bracketed (s : Style) (open0 close : UInt16) (parts : List Units) (indent outer : Units) :
    Units :=
  if parts.isEmpty then #[open0, close]
  else if s.gap.isEmpty then #[open0] ++ joinUnits #[0x2C] parts ++ #[close]
  else #[open0, 0x0A] ++ indent ++ joinUnits (#[0x2C, 0x0A] ++ indent) parts ++ #[0x0A]
    ++ outer ++ #[close]

/-- Writes a value; `none` for one that cannot be written. -/
def write (s : Style) : Nat → Val → Key → Val → List Nat → Units → Script (Option Units)
  | 0, _, _, _, _, _ => throwKind .internalError "stack overflow"
  | fuel + 1, holder, k, v0, stack, outer => do
    match ← prepared s holder k v0 with
    | .null => return some (Units.ofString "null")
    | .bool b => return some (Units.ofString (if b then "true" else "false"))
    | .str u => return some (quoted u)
    | .num x => return some (Units.ofString (if x.isFinite then numberText x else "null"))
    | .big _ => throwType "bigint are forbidden in JSON.stringify"
    | .obj id =>
      let v := Val.obj id
      if (← MonadState.get).isCallable v then return none
      if stack.contains id then throwType "circular reference"
      let stack := id :: stack
      let indent := outer ++ s.gap
      if (← MonadState.get).isArray v then
        let n ← toLength (← getName v "length")
        let mut parts := #[]
        for i in [0:n] do
          let key := Key.ofNat i
          match ← write s fuel v key (← get v key) stack indent with
          | some u => parts := parts.push u
          | none => parts := parts.push (Units.ofString "null")
        return some (bracketed s 0x5B 0x5D parts.toList indent outer)
      else
        let names ← match s.allowed with
          | some names => pure names
          | none => do pure (← ownNames id).toList
        let mut parts := #[]
        for name in names do
          let key := Key.name name
          match ← write s fuel v key (← get v key) stack indent with
          | some u =>
            let colon : Units := if s.gap.isEmpty then #[0x3A] else #[0x3A, 0x20]
            parts := parts.push (quoted (Units.ofString name) ++ colon ++ u)
          | none => pure ()
        return some (bracketed s 0x7B 0x7D parts.toList indent outer)
    | _ => return none

/-- The text that indents one level. -/
def gapOf (v : Val) : Script Units := do
  let v ← match v with
    | .obj id => match (← obj id).kind with
      | .wrapper (.num _) => do pure (.num (← toNumber v))
      | .wrapper (.str _) => do pure (.str (← toUnits v))
      | _ => pure v
    | _ => pure v
  match v with
  | .num x =>
    let n := wholePart x
    return Array.replicate (if n < 1 then 0 else (min n 10).toUInt64.toNat) 0x20
  | .str u => return u.extract 0 10
  | _ => return #[]

/-- The names that a list of replacers admits. -/
def namesOf (v : Val) : Script (List String) := do
  let mut out := #[]
  for item in ← listOf v do
    let name ← match item with
      | .str u => pure (some u.toString)
      | .num x => pure (some (numberText x))
      | .obj id => match (← obj id).kind with
        | .wrapper (.num _) | .wrapper (.str _) => do pure (some (← toText item))
        | _ => pure none
      | _ => pure none
    match name with
    | some s => if !out.contains s then out := out.push s
    | none => pure ()
  return out.toList

def stringify (args : Array Val) : Script Val := do
  let r := arg args 1
  let m ← MonadState.get
  let replacer := if m.isCallable r then r else .undefined
  let allowed ← if m.isArray r then do pure (some (← namesOf r)) else pure none
  let gap ← gapOf (arg args 2)
  let holder ← newObject
  define holder (.name "") (.plain (arg args 0))
  match ← write ⟨replacer, allowed, gap⟩ 1000 (.obj holder) (.name "") (arg args 0) [] #[] with
  | some u => return .str u
  | none => return .undefined

def jsonNamespace : Namespace where
  name := some "JSON"
  home := none
  tag := some "JSON"
  members := [
    .method "parse" 2 fun _ args => parse args,
    .method "stringify" 3 fun _ args => stringify args]

end ScriptHost.ProtoScript.Builtin.Json
