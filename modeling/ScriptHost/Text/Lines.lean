/-!
# White space and lines

* `isBlank` — the characters with the `White_Space` property.
* `trim`, `trimEnd` — text without white space at its ends.
* `lines` — the lines of a text: a line feed ends a line, a carriage return before it belongs to the
  line end, and a last line need not be ended.
* `lineAt?` — one line, without the white space at its end.
-/

namespace ScriptHost.Text

/-- The characters with the `White_Space` property. -/
def isBlank (c : Char) : Bool :=
  let n := c.toNat
  (9 ≤ n && n ≤ 13) || n == 0x20 || n == 0x85 || n == 0xA0 || n == 0x1680 ||
    (0x2000 ≤ n && n ≤ 0x200A) || n == 0x2028 || n == 0x2029 || n == 0x202F || n == 0x205F ||
    n == 0x3000

/-- A text without the white space at its end. -/
def trimEnd (s : String) : String :=
  String.ofList (s.toList.reverse.dropWhile isBlank).reverse

/-- A text without the white space at its start. -/
def trimStart (s : String) : String :=
  String.ofList (s.toList.dropWhile isBlank)

/-- A text without the white space at either end. -/
def trim (s : String) : String := trimEnd (trimStart s)

/-- The part of a text before its first line feed, and what follows that line feed. -/
def splitLine : List Char → List Char × Option (List Char)
  | [] => ([], none)
  | '\n' :: rest => ([], some rest)
  | c :: rest =>
    let (line, more) := splitLine rest
    (c :: line, more)

/-- What follows the first line feed is shorter than the text. -/
theorem splitLine_length {cs rest : List Char} {line : List Char}
    (h : splitLine cs = (line, some rest)) : rest.length < cs.length := by
  induction cs generalizing line with
  | nil => simp [splitLine] at h
  | cons c cs ih =>
    unfold splitLine at h
    split at h
    · simp at h
    · rename_i heq
      injection heq with h1 h2
      simp at h
      simp [← h.2, h2]
    · rename_i heq
      injection heq with h1 h2
      subst h2
      obtain ⟨h3, h4⟩ := Prod.mk.inj h
      have := @ih (splitLine cs).1 (by rw [← h4])
      simp only [List.length_cons]
      omega

/-- A line without the carriage return that belongs to its end. -/
def dropReturn (line : List Char) : List Char :=
  match line.reverse with
  | '\r' :: rest => rest.reverse
  | _ => line

/-- The lines of a text, each without its line end. -/
def linesOf (cs : List Char) : List (List Char) :=
  match _h : splitLine cs with
  | (line, none) => if line.isEmpty then [] else [line]
  | (line, some rest) => dropReturn line :: linesOf rest
termination_by cs.length
decreasing_by exact splitLine_length (by assumption)

/-- The lines of a text. -/
def lines (s : String) : List String := (linesOf s.toList).map String.ofList

/-- Line `n`, counted from 0, without the white space at its end. -/
def lineAt? (s : String) (n : Nat) : Option String := (lines s)[n]?.map trimEnd

end ScriptHost.Text
