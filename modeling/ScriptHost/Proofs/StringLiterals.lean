import Mathlib
import ScriptHost.Proofs.Units
import ScriptHost.ProtoScript.Builtin.Globals
import ScriptHost.Template.Source

/-!
# String literals

A string literal is read unit by unit.  A unit stands for itself unless it is the quote, ends a line or begins
an escape; the grammar is that of strict code, and no raw line separator is let through.  Read by this
grammar, what a template writes between single quotes is the literal text again.

* `escapeValue?` — what an escape stands for, and how many units it takes.
* `literalValue?` — the value of a text that is one string literal, and of no other.
* `charactersValue?_quoteUnit` — one quoted unit is read as that unit.
* `literalValue?_quoteUnits` — **quoted text is a literal with that value**.
* `not_endsLine_quoteUnits` — quoted text stays on its line.
-/

namespace ScriptHost.Template

open ProtoScript.Builtin.Globals (hexDigit?)
open Text (Units)

/-! ## The grammar -/

/-- The units that end a line. -/
def endsLine (u : UInt16) : Bool := u == 0x0A || u == 0x0D || u == 0x2028 || u == 0x2029

/-- The letters that stand for another unit behind a backslash. -/
def singleEscapes : List (UInt16 × UInt16) :=
  [(0x62, 0x08), (0x66, 0x0C), (0x6E, 0x0A), (0x72, 0x0D), (0x74, 0x09), (0x76, 0x0B)]

/-- The number that hexadecimal digits stand for. -/
def hexNumber? (us : List UInt16) : Option Nat :=
  us.foldlM (fun n u => (hexDigit? u).map (16 * n + ·)) 0

/-- A number of hexadecimal digits, and how many units they take. -/
def hexValue? (width : Nat) (us : List UInt16) : Option (List UInt16 × Nat) :=
  if us.length < width then none else (hexNumber? (us.take width)).map fun n => ([n.toUInt16], width)

/-- Hexadecimal digits up to a closing brace, and how many units they take together. -/
def bracedValue? (us : List UInt16) : Option (List UInt16 × Nat) :=
  let digits := us.takeWhile (· != 0x7D)
  if digits = [] ∨ digits = us then none
  else match hexNumber? digits with
    | none => none
    | some n => if n ≤ 0x10FFFF then some ((Units.pushCode #[] n).toList, digits.length + 1) else none

/-- What an escape stands for, and how many units it takes behind the backslash. -/
def escapeValue? : List UInt16 → Option (List UInt16 × Nat)
  | [] => none
  | e :: us =>
    -- a line that goes on
    if endsLine e then some ([], if e = 0x0D ∧ us.head? = some 0x0A then 2 else 1)
    else if e = 0x78 then (hexValue? 2 us).map fun (v, n) => (v, n + 1)
    else if e = 0x75 then
      if us.head? = some 0x7B then (bracedValue? us.tail).map fun (v, n) => (v, n + 2)
      else (hexValue? 4 us).map fun (v, n) => (v, n + 1)
    else if 0x30 ≤ e ∧ e ≤ 0x39 then
      if e = 0x30 ∧ ∀ d ∈ us.head?, ¬(0x30 ≤ d ∧ d ≤ 0x39) then some ([0], 1) else none
    else some ([(singleEscapes.lookup e).getD e], 1)

/-- The value of the text from a place between the quotes to its end, which is the closing quote.  The
units that the last escape takes are skipped. -/
def charactersValue? (q : UInt16) : Nat → List UInt16 → Option (List UInt16)
  | _, [] => none
  | skip + 1, _ :: us => charactersValue? q skip us
  | 0, u :: us =>
    if u = q then if us = [] then some [] else none
    else if endsLine u then none
    else if u = 0x5C then match escapeValue? us with
      | none => none
      | some (v, n) => (charactersValue? q n us).map (v ++ ·)
    else (charactersValue? q 0 us).map (u :: ·)

/-- The value of a text that is a string literal. -/
def literalValue? : List UInt16 → Option (List UInt16)
  | [] => none
  | q :: us => if q = 0x27 ∨ q = 0x22 then charactersValue? q 0 us else none

/-! ## Readers of single units -/

theorem charactersValue?_skip (q : UInt16) (us vs : List UInt16) :
    charactersValue? q us.length (us ++ vs) = charactersValue? q 0 vs := by
  induction us with
  | nil => rfl
  | cons u us ih => exact ih

/-- A backslash and an escape that is read as one unit. -/
theorem charactersValue?_escape {q v : UInt16} (hq : q ≠ 0x5C) (es : List UInt16) {rest : List UInt16}
    (h : escapeValue? (es ++ rest) = some ([v], es.length)) :
    charactersValue? q 0 (0x5C :: es ++ rest) = (charactersValue? q 0 rest).map (v :: ·) := by
  rw [List.cons_append, charactersValue?, if_neg hq.symm, if_neg (by decide), if_pos rfl, h]
  simp only [charactersValue?_skip]
  rfl

/-- A unit that stands for another one behind a backslash. -/
structure StandsFor (e v : UInt16) : Prop where
  line : endsLine e = false
  letter : e ≠ 0x78 ∧ e ≠ 0x75
  digit : ¬(0x30 ≤ e ∧ e ≤ 0x39)
  value : (singleEscapes.lookup e).getD e = v

theorem escapeValue?_single {e v : UInt16} (h : StandsFor e v) (rest : List UInt16) :
    escapeValue? (e :: rest) = some ([v], 1) := by
  simp [escapeValue?, h.line, h.letter, h.digit, h.value]

theorem escapeValue?_code {a b c d v : UInt16} (hbrace : a ≠ 0x7B) (h : hexNumber? [a, b, c, d] = some v.toNat)
    (rest : List UInt16) : escapeValue? (0x75 :: a :: b :: c :: d :: rest) = some ([v], 5) := by
  have hlength : ¬(a :: b :: c :: d :: rest).length < 4 := by simp
  have htake : (a :: b :: c :: d :: rest).take 4 = [a, b, c, d] := rfl
  have hvalue : hexValue? 4 (a :: b :: c :: d :: rest) = some ([v], 4) := by
    rw [hexValue?, if_neg hlength, htake, h]
    simp
  have hhead : (a :: b :: c :: d :: rest).head? ≠ some 0x7B := by simpa using hbrace
  rw [escapeValue?, if_neg (by decide), if_neg (by decide), if_pos rfl, if_neg hhead, hvalue]
  rfl

/-! ## Quoted text -/

/-- The ways to write a unit: a backslash and one unit, or the code of a line separator, or as it is. -/
theorem quoteUnit_cases (c : UInt16) :
    (∃ e, (quoteUnit c).toList = [0x5C, e] ∧ StandsFor e c)
    ∨ (∃ d, (quoteUnit c).toList = [0x5C, 0x75, 0x32, 0x30, 0x32, d] ∧ endsLine d = false
        ∧ hexNumber? [0x32, 0x30, 0x32, d] = some c.toNat)
    ∨ (quoteUnit c).toList = [c] ∧ c ≠ 0x27 ∧ c ≠ 0x5C ∧ endsLine c = false := by
  have hunits (s : String) : (Units.ofString s).toList = Units.ofChars s.toList := Units.ofString_toList s
  by_cases hslash : c = 0x5C
  · subst c
    exact .inl ⟨0x5C, hunits _, by decide, by decide, by decide, by decide⟩
  by_cases hquote : c = 0x27
  · subst c
    exact .inl ⟨0x27, hunits _, by decide, by decide, by decide, by decide⟩
  by_cases hreturn : c = 0x0D
  · subst c
    exact .inl ⟨0x72, hunits _, by decide, by decide, by decide, by decide⟩
  by_cases hfeed : c = 0x0A
  · subst c
    exact .inl ⟨0x6E, hunits _, by decide, by decide, by decide, by decide⟩
  by_cases htab : c = 0x09
  · subst c
    exact .inl ⟨0x74, hunits _, by decide, by decide, by decide, by decide⟩
  by_cases hline : c = 0x2028
  · subst c
    exact .inr (.inl ⟨0x38, hunits _, by decide, by decide⟩)
  by_cases hparagraph : c = 0x2029
  · subst c
    exact .inr (.inl ⟨0x39, hunits _, by decide, by decide⟩)
  refine .inr (.inr ⟨?_, hquote, hslash, ?_⟩)
  · simp [quoteUnit, hslash, hquote, hreturn, hfeed, htab, hline, hparagraph]
  · simp [endsLine, hreturn, hfeed, hline, hparagraph]

/-- One quoted unit is read as that unit. -/
theorem charactersValue?_quoteUnit (c : UInt16) (rest : List UInt16) :
    charactersValue? 0x27 0 ((quoteUnit c).toList ++ rest) = (charactersValue? 0x27 0 rest).map (c :: ·) := by
  obtain ⟨e, hunits, hvalue⟩ | ⟨d, hunits, -, hvalue⟩ | ⟨hunits, hquote, hslash, hline⟩ := quoteUnit_cases c
  · rw [hunits]
    exact charactersValue?_escape (by decide) [e] (escapeValue?_single hvalue rest)
  · rw [hunits]
    exact charactersValue?_escape (by decide) [0x75, 0x32, 0x30, 0x32, d]
      (escapeValue?_code (by decide) hvalue rest)
  · rw [hunits]
    simp [charactersValue?, hquote, hslash, hline]

theorem quoteUnits_toList (text : Units) :
    (quoteUnits text).toList = text.toList.flatMap fun c => (quoteUnit c).toList := by
  simp [quoteUnits, Array.toList_flatMap]

/-- Text between single quotes. -/
def inQuotes (us : List UInt16) : List UInt16 := 0x27 :: (us ++ [0x27])

/-- Quoted text is a literal with that value. -/
theorem literalValue?_quoteUnits (text : Units) : literalValue? (inQuotes (quoteUnits text).toList) = some text.toList := by
  have hcharacters (us : List UInt16) :
      charactersValue? 0x27 0 ((us.flatMap fun c => (quoteUnit c).toList) ++ [0x27]) = some us := by
    induction us with
    | nil => rfl
    | cons u us ih =>
      rw [List.flatMap_cons, List.append_assoc, charactersValue?_quoteUnit, ih]
      rfl
  rw [inQuotes, quoteUnits_toList, literalValue?, if_pos (Or.inl rfl)]
  exact hcharacters text.toList

/-- Quoted text stays on its line. -/
theorem not_endsLine_quoteUnits (text : Units) : ∀ u ∈ (quoteUnits text).toList, endsLine u = false := by
  intro u hu
  rw [quoteUnits_toList] at hu
  obtain ⟨c, -, hu⟩ := List.mem_flatMap.mp hu
  obtain ⟨e, hunits, hvalue⟩ | ⟨d, hunits, hline, -⟩ | ⟨hunits, -, -, hline⟩ := quoteUnit_cases c
  · rw [hunits] at hu
    simp only [List.mem_cons, List.not_mem_nil, or_false] at hu
    obtain rfl | rfl := hu
    · rfl
    · exact hvalue.line
  · rw [hunits] at hu
    simp only [List.mem_cons, List.not_mem_nil, or_false] at hu
    obtain rfl | rfl | rfl | rfl | rfl | rfl := hu
    · rfl
    · rfl
    · rfl
    · rfl
    · rfl
    · exact hline
  · rw [hunits] at hu
    rwa [List.mem_singleton.mp hu]

end ScriptHost.Template
