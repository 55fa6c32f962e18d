import ScriptHost.Text.Identifier

/-!
# Characters of words

Words are made of letters, marks, decimal digits, connectors and joiners of all scripts.  Beyond ASCII these are the
characters of identifiers, with the differences that are given here as tables of ranges.
-/

namespace ScriptHost.Text.Words

/-- Characters of words that identifiers do not have. -/
def furtherData : String :=
  "37a 488-489 897 cf3 ece 1abe 1c89-1c8a 20dd-20e0 20e2-20e4 24b6-24e9 2e2f a670-a672
   a7cb-a7cd a7da-a7dc fc5e-fc63 fdfa-fdfb fe70 fe72 fe74 fe76 fe78 fe7a fe7c fe7e
   105c0-105f3 10d40-10d65 10d69-10d6d 10d6f-10d85 10ec2-10ec4 10efc-10eff 1123f-11241
   11380-11389 1138b 1138e 11390-113b5 113b7-113c0 113c2 113c5 113c7-113ca 113cc-113d3
   113e1-113e2 116d0-116e3 11bc0-11be0 11bf0-11bf9 11f00-11f10 11f12-11f3a 11f3e-11f42
   11f50-11f5a 1342f 13440-13455 13460-143fa 16100-16139 16d40-16d6c 16d70-16d79 18cff 1b132
   1b155 1ccf0-1ccf9 1df25-1df2a 1e030-1e06d 1e08f 1e4d0-1e4f9 1e5d0-1e5fa 1f130-1f149
   1f150-1f169 1f170-1f189 2b739 2ebf0-2ee5d 31350-323af"

/-- Characters of identifiers that words do not have. -/
def foreignData : String := "b7 387 1369-1371 19da 2118 212e"

def furtherRanges : Array (Nat × Nat) := Case.readRanges furtherData
def foreignRanges : Array (Nat × Nat) := Case.readRanges foreignData

/-- Whether a character can be part of a word. -/
def isWordChar (c : Char) : Bool :=
  if c.toNat < 0x80 then c.isAlphanum || c == '_'
  else if Case.inRanges furtherRanges c.toNat then true
  else Identifier.isPart c.toNat && !Case.inRanges foreignRanges c.toNat

end ScriptHost.Text.Words
