import ScriptHost.ProtoScript.Builtin.Member

/-!
# Templates for replaced text

The text that replaces a match may refer to the match with `$`: `expand` puts in what it refers to.
-/

namespace ScriptHost.ProtoScript.Builtin.Substitution

open Text (Units)

/-- What a replacement may refer to. -/
structure Match where
  text : Units
  start : Nat
  stop : Nat
  /-- The captured groups, the first group first. -/
  groups : Array (Option Units) := #[]
  named : Option (String → Option Units) := none

/-- The group number of one or two digits at a position and the number of digits. -/
def groupNumber? (template : Units) (i count : Nat) : Option (Nat × Nat) :=
  let digit (u : UInt16) : Option Nat :=
    if 0x30 ≤ u && u ≤ 0x39 then some (u.toNat - 0x30) else none
  match digit (template.at0 i) with
  | none => none
  | some d =>
    let two := (digit (template.at0 (i + 1))).map fun e => 10 * d + e
    match two with
    | some n => if 1 ≤ n && n ≤ count then some (n, 2)
      else if 1 ≤ d && d ≤ count then some (d, 1) else none
    | none => if 1 ≤ d && d ≤ count then some (d, 1) else none

/-- Expands a template from a position on. -/
def expandFrom (m : Match) (template : Units) : Nat → Nat → Units → Units
  | 0, _, out => out
  | fuel + 1, i, out =>
    if i ≥ template.size then out
    else
      let u := template.at0 i
      let literal := expandFrom m template fuel (i + 1) (out.push u)
      if u != 0x24 || i + 1 ≥ template.size then literal
      else
        let c := template.at0 (i + 1)
        if c == 0x24 then expandFrom m template fuel (i + 2) (out.push u)
        else if c == 0x26 then
          expandFrom m template fuel (i + 2) (out ++ m.text.slice m.start m.stop)
        else if c == 0x60 then
          expandFrom m template fuel (i + 2) (out ++ m.text.slice 0 m.start)
        else if c == 0x27 then
          expandFrom m template fuel (i + 2) (out ++ m.text.slice m.stop m.text.size)
        else if c == 0x3C then
          match m.named, template.find? #[0x3E] (i + 2) with
          | some named, some close =>
            let name := (template.slice (i + 2) close).toString
            expandFrom m template fuel (close + 1) (out ++ (named name).getD #[])
          | _, _ => literal
        else match groupNumber? template (i + 1) m.groups.size with
          | some (n, digits) =>
            let group := ((m.groups[n - 1]?).join).getD #[]
            expandFrom m template fuel (i + 1 + digits) (out ++ group)
          | none => literal

/-- The text of a template for a match. -/
def expand (m : Match) (template : Units) : Units :=
  expandFrom m template (template.size + 1) 0 #[]

end ScriptHost.ProtoScript.Builtin.Substitution
