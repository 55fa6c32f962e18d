import ScriptHost.ProtoScript.Builtin.Substitution
import ScriptHost.Regex.Matcher

/-!
# `RegExp`
-/

namespace ScriptHost.ProtoScript.Builtin.Patterns

open Text (Units)

open Script

/-- The regular expression of an object. -/
def regexOf? (v : Val) : Script (Option (Nat × Regex × Units)) := do
  match v with
  | .obj id => match (← obj id).kind with
    | .regexp r source => return some (id, r, source)
    | _ => return none
  | _ => return none

def regexOf (v : Val) : Script (Nat × Regex × Units) := do
  match ← regexOf? v with
  | some r => return r
  | none => throwType "not a RegExp"

/-- Makes a regular expression of a pattern and flags. -/
def compile (source : Units) (flags : String) : Script Regex := do
  match Regex.Flags.read? flags with
  | none => throwKind .syntaxError "invalid regular expression flags"
  | some f => match Regex.parse source f with
    | .ok r => return r
    | .error e => throwKind .syntaxError e

def allocRegexp (proto : Nat) (r : Regex) (source : Units) : Script Nat := do
  let id ← alloc { proto := some proto, kind := .regexp r source }
  define id (.name "lastIndex") ⟨.value (.num 0) true, false, false⟩
  return id

/-- Whether a value counts as a regular expression. -/
def isPattern (v : Val) : Script Bool := do
  match v with
  | .obj _ =>
    let s ← get v WellKnown.matchOne.key
    if s.isUndefined then return (← regexOf? v).isSome
    return s.truthy
  | _ => return false

def make (args : Array Val) (target : Val) : Script Val := do
  let pattern := arg args 0
  let flags := arg args 1
  let isPattern0 ← isPattern pattern
  if target.isUndefined && isPattern0 && flags.isUndefined then
    if strictlyEqual (← getName pattern "constructor") (← activeFunction) then return pattern
  let (source, flagText) ← match ← regexOf? pattern with
    | some (_, r, source) =>
      pure (source, ← if flags.isUndefined then pure r.flags.text else toText flags)
    | none => do
      let (p, f) ← if isPattern0 then do
          let p ← getName pattern "source"
          let f ← if flags.isUndefined then getName pattern "flags" else pure flags
          pure (p, f)
        else pure (pattern, flags)
      let source ← if p.isUndefined then pure #[] else toUnits p
      let flagText ← if f.isUndefined then pure "" else toText f
      pure (source, flagText)
  let r ← compile source flagText
  let proto ← protoOf target .regexpProto
  return .obj (← allocRegexp proto r source)

/-- The text of a group. -/
def groupText (u : Units) (c : Regex.Captures) (i : Nat) : Option Units :=
  (c.bounds? i).map fun (a, b) => u.slice a b

def groupVal (u : Units) (c : Regex.Captures) (i : Nat) : Val :=
  match groupText u c i with
  | some t => .str t
  | none => .undefined

/-- Matches where the expression was told to begin, and remembers where to go on. -/
def matchOnce (id : Nat) (r : Regex) (u : Units) : Script (Option Regex.Captures) := do
  let last ← toLength (← getName (.obj id) "lastIndex")
  let moving := r.flags.global || r.flags.sticky
  let start := if moving then last else 0
  let found := if start > u.size then none else r.search u start
  match found with
  | none =>
    if moving then putName (.obj id) "lastIndex" (.num 0)
    return none
  | some c =>
    if moving then
      putName (.obj id) "lastIndex" (.ofNat (((c.bounds? 0).map (·.2)).getD 0))
    return some c

/-- The object of a successful match. -/
def matchResult (r : Regex) (u : Units) (c : Regex.Captures) : Script Val := do
  let out ← newArray ((Array.range r.groupCount).map (groupVal u c))
  let .obj id := out | return out
  let start := ((c.bounds? 0).map (·.1)).getD 0
  let groups ← if r.names.isEmpty then pure Val.undefined
    else do
      let g ← alloc { proto := none }
      for (name, i) in r.names do define g (.name name) (.plain (groupVal u c i))
      pure (.obj g)
  define id (.name "index") (.plain (.ofNat start))
  define id (.name "input") (.plain (.str u))
  define id (.name "groups") (.plain groups)
  if r.flags.hasIndices then
    let pair (i : Nat) : Script Val := do
      match c.bounds? i with
      | some (a, b) => newArray #[.ofNat a, .ofNat b]
      | none => return .undefined
    let pairs ← (Array.range r.groupCount).mapM pair
    let indices ← newArray pairs
    match indices with
    | .obj j =>
      let named ← if r.names.isEmpty then pure Val.undefined
        else do
          let g ← alloc { proto := none }
          for (name, i) in r.names do define g (.name name) (.plain (← pair i))
          pure (.obj g)
      define j (.name "groups") (.plain named)
    | _ => pure ()
    define id (.name "indices") (.plain indices)
  return out

def exec (this : Val) (u : Units) : Script Val := do
  let (id, r, _) ← regexOf this
  match ← matchOnce id r u with
  | some c => matchResult r u c
  | none => return .null

/-- Whether the method `exec` of an object is the machine's own. -/
def hasOwnExec (f : Val) : Script Bool := do
  match f, (← obj Intrinsic.regexpProto.id).named? (.name "exec") with
  | .obj a, some ⟨.value (.obj b) _, _, _⟩ =>
    -- the function is recognized by its number, whatever the property holds now
    match (← obj a).kind, (← obj b).kind with
    | .native i, .native j => return i == j
    | _, _ => return false
  | _, _ => return false

/-- Matches by the object's own method. -/
def execBy (this : Val) (u : Units) : Script Val := do
  let f ← getName this "exec"
  if (← MonadState.get).isCallable f && !(← hasOwnExec f) then
    let r ← call f this #[.str u]
    match r with
    | .obj _ | .null => return r
    | _ => throwType "object or null expected"
  else exec this u

/-- The position after an empty match. -/
def stepOver (u : Units) (i : Nat) (unicode : Bool) : Nat :=
  if unicode && i < u.size then i + (u.codeAt i).2 else i + 1

/-- All matches of a global expression, the first one first. -/
def allMatches (this : Val) (u : Units) (unicode : Bool) : Nat → Array Val → Script (Array Val)
  | 0, _ => throw .exhausted
  | fuel + 1, done => do
    let r ← execBy this u
    if r.isNullish then return done
    let text ← toUnits (← get r (.ofNat 0))
    if text.isEmpty then
      let last ← toLength (← getName this "lastIndex")
      putName this "lastIndex" (.ofNat (stepOver u last unicode))
    allMatches this u unicode fuel (done.push r)

def matchAllOf (this : Val) (args : Array Val) : Script Val := do
  if !this.isObject then throwType "not an object"
  let u ← toUnits (arg args 0)
  let flags ← toText (← getName this "flags")
  if !flags.contains 'g' then execBy this u
  else
    putName this "lastIndex" (.num 0)
    let found ← allMatches this u (flags.contains 'u') stepLimit #[]
    if found.isEmpty then return .null
    newArray (← found.mapM fun r => do return .str (← toUnits (← get r (.ofNat 0))))

/-- What replaces a match. -/
def replacementOf (r : Val) (u : Units) (f : Val) : Script (Units × Nat × Nat) := do
  let n ← toLength (← getName r "length")
  let text ← toUnits (← get r (.ofNat 0))
  let x ← toWhole (← getName r "index")
  let start := min (if x < 0 then 0 else x.toUInt64.toNat) u.size
  let mut groups : Array (Option Units) := #[]
  for i in [1:n] do
    let g ← get r (.ofNat i)
    groups := groups.push (← if g.isUndefined then pure none else do pure (some (← toUnits g)))
  let named ← getName r "groups"
  let out ← if (← MonadState.get).isCallable f then do
      let groupVals := groups.map fun g => match g with
        | some t => Val.str t
        | none => .undefined
      let args := #[.str text] ++ groupVals ++ #[.ofNat start, .str u]
      toUnits (← call f .undefined (if named.isUndefined then args else args.push named))
    else do
      let template ← toUnits f
      let lookup ← if named.isUndefined then pure none
        else do
          let id ← toObject named
          let mut pairs : List (String × Option Units) := []
          for k in (← MonadState.get).ownKeys id do
            match k with
            | .name s =>
              let v ← getName (.obj id) s
              let t ← if v.isUndefined then pure none else do pure (some (← toUnits v))
              pairs := (s, t) :: pairs
            | .symbol _ => pure ()
          let table := pairs
          pure (some fun s => (table.lookup s).join)
      pure (Substitution.expand ⟨u, start, start + text.size, groups, lookup⟩ template)
  return (out, start, text.size)

def replace (this : Val) (args : Array Val) : Script Val := do
  if !this.isObject then throwType "not an object"
  let u ← toUnits (arg args 0)
  let f := arg args 1
  let f ← if (← MonadState.get).isCallable f then pure f else do pure (.str (← toUnits f))
  let flags ← toText (← getName this "flags")
  let found ← if flags.contains 'g' then do
      putName this "lastIndex" (.num 0)
      allMatches this u (flags.contains 'u') stepLimit #[]
    else do
      let r ← execBy this u
      pure (if r.isNullish then #[] else #[r])
  let mut out : Units := #[]
  let mut last := 0
  for r in found do
    let (text, start, size) ← replacementOf r u f
    if start ≥ last then
      out := out ++ u.slice last start ++ text
      last := start + size
  return .str (out ++ u.slice last u.size)

def search (this : Val) (args : Array Val) : Script Val := do
  if !this.isObject then throwType "not an object"
  let u ← toUnits (arg args 0)
  let previous ← getName this "lastIndex"
  putName this "lastIndex" (.num 0)
  let r ← execBy this u
  putName this "lastIndex" previous
  if r.isNullish then return .num (-1) else getName r "index"

/-- Splits a text at the matches that are not empty or not at the end. -/
def splitFrom (r : Regex) (u : Units) (limit : Nat) : Nat → Nat → Nat → Array Val → Array Val
  | 0, p, _, out => out.push (.str (u.slice p u.size))
  | fuel + 1, p, q, out =>
    if q ≥ u.size then out.push (.str (u.slice p u.size))
    else
      match r.matchAt u q with
      | none => splitFrom r u limit fuel p (stepOver u q r.flags.unicode) out
      | some c =>
        let stop := min (((c.bounds? 0).map (·.2)).getD q) u.size
        if stop == p then splitFrom r u limit fuel p (stepOver u q r.flags.unicode) out
        else
          let out := out.push (.str (u.slice p q))
          let groups := (Array.range r.groupCount).extract 1 r.groupCount
          let out := out ++ groups.map (groupVal u c)
          if out.size ≥ limit then out else splitFrom r u limit fuel stop stop out

def split (this : Val) (args : Array Val) : Script Val := do
  let (_, r, _) ← regexOf this
  let u ← toUnits (arg args 0)
  let limit ← if (arg args 1).isUndefined then pure 4294967295
    else do pure (← toWord (arg args 1)).toNat
  if limit == 0 then newArray #[]
  else if u.isEmpty then
    newArray (if (r.matchAt u 0).isSome then #[] else #[.str u])
  else
    let parts := splitFrom r u limit (u.size + 1) 0 0 #[]
    newArray (parts.extract 0 limit)

/-- A flag as a property. -/
def flagGetter (name : String) (read : Regex.Flags → Bool) : Member :=
  .getter name fun this => do
    match ← regexOf? this with
    | some (_, r, _) => return .bool (read r.flags)
    | none => match this with
      | .obj id =>
        if id == Intrinsic.regexpProto.id then return .undefined else throwType "not a RegExp"
      | _ => throwType "not an object"

def spec : ClassSpec where
  proto := .regexpProto
  constructor := ⟨"RegExp", 2, fun _ args target => make args target⟩
  statics := [.speciesGetter]
  methods := [
    .getter "flags" fun this => do
      if !this.isObject then throwType "not an object"
      let mut out := ""
      for (name, letter) in [("hasIndices", "d"), ("global", "g"), ("ignoreCase", "i"),
          ("multiline", "m"), ("dotAll", "s"), ("unicode", "u"), ("sticky", "y")] do
        if (← getName this name).truthy then out := out ++ letter
      return .ofString out,
    .getter "source" fun this => do
      match ← regexOf? this with
      | some (_, _, source) => return .str (Regex.escapedSource source)
      | none => match this with
        | .obj id =>
          if id == Intrinsic.regexpProto.id then return .ofString "(?:)"
          else throwType "not a RegExp"
        | _ => throwType "not an object",
    flagGetter "global" (·.global),
    flagGetter "ignoreCase" (·.ignoreCase),
    flagGetter "multiline" (·.multiline),
    flagGetter "dotAll" (·.dotAll),
    flagGetter "unicode" (·.unicode),
    flagGetter "sticky" (·.sticky),
    flagGetter "hasIndices" (·.hasIndices),
    .method "exec" 1 fun this args => do
      let _ ← regexOf this
      exec this (← toUnits (arg args 0)),
    .method "compile" 2 fun this args => do
      let (id, _, _) ← regexOf this
      match ← make args (.obj id) with
      | .obj j => match (← obj j).kind with
        | .regexp r source => updateObj id fun o => { o with kind := .regexp r source }
        | _ => pure ()
      | _ => pure ()
      putName this "lastIndex" (.num 0)
      return this,
    .method "test" 1 fun this args => do
      if !this.isObject then throwType "not an object"
      return .bool (!(← execBy this (← toUnits (arg args 0))).isNullish),
    .method "toString" 0 fun this _ => do
      if !this.isObject then throwType "not an object"
      let source ← toUnits (← getName this "source")
      let flags ← toUnits (← getName this "flags")
      return .str (#[0x2F] ++ source ++ #[0x2F] ++ flags),
    .symbolMethod .matchOne 1 matchAllOf,
    .symbolMethod .matchAll 1 fun this args => do
      let (_, r, source) ← regexOf this
      let u ← toUnits (arg args 0)
      let copy ← allocRegexp Intrinsic.regexpProto.id r source
      putName (.obj copy) "lastIndex" (← getName this "lastIndex")
      let found ← if r.flags.global then
          allMatches (.obj copy) u r.flags.unicode stepLimit #[]
        else do
          let one ← execBy (.obj copy) u
          pure (if one.isNullish then #[] else #[one])
      let list ← newArray found
      allocVal {
        proto := some Intrinsic.arrayIteratorProto.id, kind := .arrayIterator list 0 .values },
    .symbolMethod .replace 2 replace,
    .symbolMethod .search 1 search,
    .symbolMethod .split 2 split]

end ScriptHost.ProtoScript.Builtin.Patterns
