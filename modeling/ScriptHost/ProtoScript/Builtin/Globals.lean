import ScriptHost.ProtoScript.Builtin.Numbers
import ScriptHost.ProtoScript.Builtin.Object

/-!
# Global functions and `Reflect`
-/

namespace ScriptHost.ProtoScript.Builtin.Globals

open Text (Units)

open Script

/-! ## Addresses -/

def throwUri {α : Type} (message : String) : Script α := throwKind .uriError message

/-- The characters that addresses keep as they are. -/
def isUnreserved (c : Nat) : Bool :=
  (Char.ofNat c).isAlphanum || ("-_.!~*'()".toList.map Char.toNat).contains c

/-- The characters that have a meaning in an address as a whole. -/
def isReserved (c : Nat) : Bool := (";/?:@&=+$,#".toList.map Char.toNat).contains c

def hexPair (n : Nat) : Units :=
  let digit (d : Nat) : UInt16 := (if d < 10 then 48 + d else 55 + d).toUInt16
  #[0x25, digit (n / 16), digit (n % 16)]

/-- The bytes of a code point. -/
def bytesOf (c : Nat) : List Nat :=
  if c < 0x80 then [c]
  else if c < 0x800 then [0xC0 + c / 64, 0x80 + c % 64]
  else if c < 0x10000 then [0xE0 + c / 4096, 0x80 + c / 64 % 64, 0x80 + c % 64]
  else [0xF0 + c / 262144, 0x80 + c / 4096 % 64, 0x80 + c / 64 % 64, 0x80 + c % 64]

def encode (u : Units) (component : Bool) : Script Val := do
  let mut out : Units := #[]
  for c in u.codes do
    if c < 0x80 && (isUnreserved c || (!component && isReserved c)) then out := out.pushCode c
    else if 0xDC00 ≤ c && c ≤ 0xDFFF then throwUri "invalid character"
    else if 0xD800 ≤ c && c ≤ 0xDBFF then throwUri "expecting surrogate pair"
    else
      for b in bytesOf c do out := out ++ hexPair b
  return .str out

def hexDigit? (c : UInt16) : Option Nat :=
  let n := c.toNat
  if 48 ≤ n && n ≤ 57 then some (n - 48)
  else if 65 ≤ n && n ≤ 70 then some (n - 55)
  else if 97 ≤ n && n ≤ 102 then some (n - 87)
  else none

/-- The byte that a percent sign and two digits stand for. -/
def percentByte (u : Units) (i : Nat) : Script Nat := do
  if u.at0 i != 0x25 then throwUri "expecting %"
  match hexDigit? (u.at0 (i + 1)), hexDigit? (u.at0 (i + 2)) with
  | some a, some b => return 16 * a + b
  | _, _ => throwUri "expecting hex digit"

/-- Reads the bytes after the first of a character; zero for a wrong one. -/
def moreBytes (u : Units) : Nat → Nat → Nat → Script (Nat × Nat)
  | 0, i, c => return (c, i)
  | n + 1, i, c => do
    let b ← percentByte u i
    if b / 64 != 2 then return (0, i + 3)
    moreBytes u n (i + 3) (64 * c + b % 64)

def decodeFrom (u : Units) (component : Bool) : Nat → Nat → Units → Script Units
  | 0, _, out => return out
  | fuel + 1, i, out => do
    if i ≥ u.size then return out
    if u.at0 i != 0x25 then decodeFrom u component fuel (i + 1) (out.push (u.at0 i))
    else
      let b ← percentByte u i
      if b < 0x80 then
        if !component && isReserved b then decodeFrom u component fuel (i + 1) (out.push 0x25)
        else decodeFrom u component fuel (i + 3) (out.pushCode b)
      else
        let (n, low, c) := if b / 32 == 6 then (1, 0x80, b % 32)
          else if b / 16 == 14 then (2, 0x800, b % 16)
          else if b / 8 == 30 then (3, 0x10000, b % 8)
          else (0, 1, 0)
        let (c, i) ← moreBytes u n (i + 3) c
        if c < low || c > 0x10FFFF || (0xD800 ≤ c && c ≤ 0xDFFF) then throwUri "malformed UTF-8"
        decodeFrom u component fuel i (out.pushCode c)

def decode (u : Units) (component : Bool) : Script Val := do
  return .str (← decodeFrom u component (u.size + 1) 0 #[])

/-- The older escape of text by its units. -/
def escape (u : Units) : Units :=
  u.foldl (fun out c =>
    let n := c.toNat
    if n < 0x80 && ((Char.ofNat n).isAlphanum || ("@*_+-./".toList.map Char.toNat).contains n) then
      out.push c
    else
      let digit (d : Nat) : UInt16 := (if d < 10 then 48 + d else 55 + d).toUInt16
      if n < 0x100 then out ++ hexPair n
      else out ++ #[0x25, 0x75, digit (n / 4096), digit (n / 256 % 16), digit (n / 16 % 16),
        digit (n % 16)]) #[]

def hexUnits? (u : Units) (i n : Nat) : Option Nat :=
  (List.range n).foldlM (fun v k => (hexDigit? (u.at0 (i + k))).map fun d => 16 * v + d) 0

def unescapeFrom (u : Units) : Nat → Nat → Units → Units
  | 0, _, out => out
  | fuel + 1, i, out =>
    if i ≥ u.size then out
    else if u.at0 i != 0x25 then unescapeFrom u fuel (i + 1) (out.push (u.at0 i))
    else if u.at0 (i + 1) == 0x75 then
      match hexUnits? u (i + 2) 4 with
      | some n => unescapeFrom u fuel (i + 6) (out.push n.toUInt16)
      | none => unescapeFrom u fuel (i + 1) (out.push 0x25)
    else match hexUnits? u (i + 1) 2 with
      | some n => unescapeFrom u fuel (i + 3) (out.push n.toUInt16)
      | none => unescapeFrom u fuel (i + 1) (out.push 0x25)

def globalMembers : List Member := [
  Numbers.parseIntMember,
  Numbers.parseFloatMember,
  .method "isNaN" 1 fun _ args => do return .bool (← toNumber (arg args 0)).isNaN,
  .method "isFinite" 1 fun _ args => do return .bool (← toNumber (arg args 0)).isFinite,
  .method "decodeURI" 1 fun _ args => do decode (← toUnits (arg args 0)) false,
  .method "decodeURIComponent" 1 fun _ args => do decode (← toUnits (arg args 0)) true,
  .method "encodeURI" 1 fun _ args => do encode (← toUnits (arg args 0)) false,
  .method "encodeURIComponent" 1 fun _ args => do encode (← toUnits (arg args 0)) true,
  .method "escape" 1 fun _ args => do return .str (escape (← toUnits (arg args 0))),
  .method "unescape" 1 fun _ args => do
    let u ← toUnits (arg args 0)
    return .str (unescapeFrom u (u.size + 1) 0 #[]),
  { Member.method "eval" 1 evalIndirect with place := some .evalFunction }]
where
  /-- Evaluates a text in the global scope; other values are answered as they are. -/
  evalIndirect (_ : Val) (args : Array Val) : Script Val :=
    match arg args 0 with
    | .str u => fun calls => calls.evaluate u.toString
    | v => return v

/-- The function that refuses every use of a property. -/
def refusal : Namespace where
  name := none
  home := some .functionProto
  members := [
    { Member.method "" 0 (fun _ _ => throwType "invalid property access") with
      place := some .throwTypeError, key := .symbol WellKnown.names.length }]

def reflectNamespace : Namespace where
  name := some "Reflect"
  home := none
  tag := some "Reflect"
  members := [
    .method "apply" 3 fun _ args => do
      requireFunction (arg args 0)
      call (arg args 0) (arg args 1) (← listOf (arg args 2)),
    .method "construct" 2 fun _ args => do
      let f := arg args 0
      let target := if args.size > 2 then arg args 2 else f
      for g in [f, target] do
        if !(← MonadState.get).isConstructor g then throwType "not a constructor"
      construct f (← listOf (arg args 1)) target,
    .method "defineProperty" 3 fun _ args => do
      let id ← Object.objectArg (arg args 0)
      let k ← toKey (arg args 1)
      return .bool (← defineOwn id k (← Object.toDescriptor (arg args 2)) false),
    .method "deleteProperty" 2 fun _ args => do
      let id ← Object.objectArg (arg args 0)
      return .bool (← delete id (← toKey (arg args 1)) false),
    .method "get" 2 fun _ args => do
      let id ← Object.objectArg (arg args 0)
      let k ← toKey (arg args 1)
      getFrom id k (if args.size > 2 then arg args 2 else arg args 0),
    .method "getOwnPropertyDescriptor" 2 fun _ args => do
      let id ← Object.objectArg (arg args 0)
      let k ← toKey (arg args 1)
      match (← MonadState.get).ownProperty? id k with
      | some p => Object.fromProperty p
      | none => return .undefined,
    .method "getPrototypeOf" 1 fun _ args => do
      return Object.protoVal (← obj (← Object.objectArg (arg args 0))),
    .method "has" 2 fun _ args => do
      let id ← Object.objectArg (arg args 0)
      return .bool (← has id (← toKey (arg args 1))),
    .method "isExtensible" 1 fun _ args => do
      return .bool (← obj (← Object.objectArg (arg args 0))).extensible,
    .method "ownKeys" 1 fun _ args => do
      let id ← Object.objectArg (arg args 0)
      newArray (((← MonadState.get).ownKeys id).map Val.ofKey),
    .method "preventExtensions" 1 fun _ args => do
      updateObj (← Object.objectArg (arg args 0)) fun o => { o with extensible := false }
      return .bool true,
    .method "set" 3 fun _ args => do
      let id ← Object.objectArg (arg args 0)
      let k ← toKey (arg args 1)
      let receiver := if args.size > 3 then arg args 3 else arg args 0
      catching (do
          putOn id k (arg args 2) receiver true
          return .bool true)
        fun _ => return .bool false,
    .method "setPrototypeOf" 2 fun _ args => do
      let id ← Object.objectArg (arg args 0)
      let proto ← match arg args 1 with
        | .obj p => pure (some p)
        | .null => pure none
        | _ => throwType "not an object"
      catching (do return .bool (← Object.setProto id proto)) fun _ => return .bool false]

end ScriptHost.ProtoScript.Builtin.Globals
