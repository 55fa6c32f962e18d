import ScriptHost.Proofs.Lexing
import Mathlib.Data.List.Find

/-!
# Writing tokens

Generated code is put together from parts that are known but for a few words and literals.  A part is a
list of lexemes; whether it reads back as its tokens is computed from the lexemes and the character that
follows.

* `Lexeme` — a token, or a blank between tokens.
* `spelled_append` — **a list of lexemes that fits spells its tokens**.
-/

namespace ScriptHost.ProtoScript

open Text (Units)

/-- A token as it is written, or a blank. -/
inductive Lexeme where
  | gap (c : Char)
  | line
  | word (name : List Char)
  | mark (text : List Char)
  | literal (q : Quotes) (value : List Char)
  | zero

namespace Lexeme

/-- A word. -/
abbrev ofWord (name : String) : Lexeme := .word name.toList

/-- Punctuation. -/
abbrev ofMark (text : String) : Lexeme := .mark text.toList

/-- The literal of the empty text. -/
abbrev noText : Lexeme := .literal .single []

/-- The characters of a lexeme. -/
def chars : Lexeme → List Char
  | gap c => [c]
  | line => ['\n']
  | word name => name
  | mark text => text
  | literal q value => q.literal value
  | zero => ['0']

/-- The tokens from a lexeme on, given those after it. -/
def tokens : Lexeme → List (Token × Bool) → List (Token × Bool)
  | gap _, ts => ts
  | line, [] => []
  | line, (t, _) :: ts => (t, true) :: ts
  | word name, ts => (wordToken (String.ofList name), false) :: ts
  | mark text, ts => (.punct (String.ofList text), false) :: ts
  | literal _ value, ts => (.string (Units.ofChars value).toArray, false) :: ts
  | zero, ts => (.number ProtoScript.zero, false) :: ts

/-- Whether punctuation is the longest that stands before a character. -/
def isLongest (text : List Char) (next : Option Char) : Bool :=
  (Lexer.punctuation.find? fun t => t.toList.isPrefixOf text)
      == (if text.length == 1 then none else some (String.ofList text))
    && Lexer.punctuation.all fun t => t.toList.isPrefixOf text
      || !(text.isPrefixOf t.toList && t.toList[text.length]? == next)

/-- Whether a lexeme can be read before a character, or before the end of the text. -/
def fits (next : Option Char) : Lexeme → Bool
  | gap c => isGap c
  | line => true
  | word [] => false
  | word (c :: w) => isSolid c && Lexer.isIdentStart c && w.all Lexer.isIdentPart && next.all endsWord
  | mark [] => false
  | mark (c :: m) => marks.contains c && isLongest (c :: m) next && c :: m != ['?', '.']
    && (c != '.' || !((m ++ next.toList).headD ' ').isDigit)
  | literal _ _ => true
  | zero => next.all endsNumeral

end Lexeme

/-- The characters of lexemes. -/
def charsOf (ls : List Lexeme) : List Char := ls.flatMap Lexeme.chars

/-- The tokens of lexemes, given those after them. -/
def tokensOf (ls : List Lexeme) (ts : List (Token × Bool)) : List (Token × Bool) :=
  ls.foldr Lexeme.tokens ts

/-- Whether lexemes can be read one after the other before a character. -/
def allFit (next : Option Char) : List Lexeme → Bool
  | [] => true
  | l :: ls => l.fits ((charsOf ls).head?.or next) && allFit next ls

@[simp] theorem charsOf_nil : charsOf [] = [] := rfl

@[simp] theorem charsOf_cons (l : Lexeme) (ls : List Lexeme) : charsOf (l :: ls) = l.chars ++ charsOf ls := rfl

@[simp] theorem charsOf_append (ls ks : List Lexeme) : charsOf (ls ++ ks) = charsOf ls ++ charsOf ks :=
  List.flatMap_append

theorem tokensOf_append (ls ks : List Lexeme) (ts : List (Token × Bool)) :
    tokensOf (ls ++ ks) ts = tokensOf ls (tokensOf ks ts) := List.foldr_append

theorem allFit_append (next : Option Char) (ls ks : List Lexeme) :
    allFit next (ls ++ ks) = (allFit ((charsOf ks).head?.or next) ls && allFit next ks) := by
  induction ls with
  | nil => rfl
  | cons l ls ih =>
    rw [List.cons_append, allFit, ih, allFit, charsOf_append, List.head?_append, Option.or_assoc,
      Bool.and_assoc]

/-! ## Punctuation -/

theorem isPrefixOf_longest {text cs : List Char} (h : Lexeme.isLongest text cs.head?) {t : String}
    (ht : t ∈ Lexer.punctuation) : t.toList.isPrefixOf (text ++ cs) = t.toList.isPrefixOf text := by
  simp only [Lexeme.isLongest, Bool.and_eq_true, List.all_eq_true] at h
  have hno := h.2 t ht
  rw [Bool.eq_iff_iff, List.isPrefixOf_iff_prefix, List.isPrefixOf_iff_prefix]
  constructor
  · intro hprefix
    by_cases hlength : t.toList.length ≤ text.length
    · exact List.prefix_of_prefix_length_le hprefix (List.prefix_append _ _) hlength
    · have hshort : text <+: t.toList :=
        List.prefix_of_prefix_length_le (List.prefix_append _ _) hprefix (by omega)
      have hnext : t.toList[text.length]? = cs.head? := by
        obtain ⟨rest, hrest⟩ := hprefix
        rw [← List.getElem?_append_left (by omega), hrest, List.getElem?_append_right (Nat.le_refl _),
          Nat.sub_self, List.head?_eq_getElem?]
      simp only [hnext, beq_self_eq_true, Bool.and_true, Bool.or_eq_true, Bool.not_eq_true',
        List.isPrefixOf_iff_prefix] at hno
      rcases hno with hno | hno
      · exact hno
      · rw [← Bool.not_eq_true, List.isPrefixOf_iff_prefix] at hno
        exact (hno hshort).elim
  · exact fun hprefix => hprefix.trans (List.prefix_append _ _)

theorem punct_longest {c : Char} {m cs : List Char} (h : Lexeme.isLongest (c :: m) cs.head?)
    (hchain : c :: m ≠ ['?', '.']) (p : Nat) :
    Lexer.punct ⟨p, c :: m ++ cs⟩ = (.punct (String.ofList (c :: m)), ⟨p + m.length + 1, cs⟩) := by
  have hfind : (Lexer.punctuation.find? fun t => t.toList.isPrefixOf (c :: m ++ cs))
      = if (c :: m).length == 1 then none else some (String.ofList (c :: m)) := by
    rw [← beq_iff_eq.mp (Bool.and_eq_true_iff.mp h).1]
    exact List.find?_congr fun t ht => isPrefixOf_longest h ht
  unfold Lexer.punct
  rw [hfind]
  cases m with
  | nil => simp [Cursor.char, Cursor.skip]
  | cons d m =>
    have hno : (String.ofList (c :: d :: m) == "?.") = false := by
      simpa [String.ext_iff] using hchain
    have hpass : p + (m.length + 1 + 1) = p + (m.length + 1) + 1 := rfl
    simp only [List.length_cons, show ((m.length + 1 + 1 == 1) = true) = False by simp, if_false, hno,
      Bool.false_and, Bool.false_eq_true, Cursor.skip, String.length_ofList]
    rw [← List.length_cons (a := d), ← List.length_cons (a := c), List.drop_left]
    rfl

/-! ## Lexemes -/

theorem Spelled.exists_cons {cs : List Char} {ts : List (Token × Bool)} (h : Spelled cs ts) :
    ∃ t nl later, ts = (t, nl) :: later := by
  cases h <;> exact ⟨_, _, _, rfl⟩

theorem spelled_lexeme {l : Lexeme} {cs : List Char} {ts : List (Token × Bool)}
    (hfit : l.fits cs.head?) (h : Spelled cs ts) : Spelled (l.chars ++ cs) (l.tokens ts) := by
  obtain ⟨t, nl, later, rfl⟩ := h.exists_cons
  cases l with
  | gap c => exact .gap hfit h
  | line => exact .line h
  | word name =>
    cases name with
    | nil => cases hfit
    | cons c w =>
      simp only [Lexeme.fits, Bool.and_eq_true] at hfit
      exact .word hfit.1.1.1 hfit.1.1.2 hfit.1.2 hfit.2 h
  | mark text =>
    cases text with
    | nil => cases hfit
    | cons c m =>
      simp only [Lexeme.fits, Bool.and_eq_true, List.contains_eq_mem, decide_eq_true_eq,
        bne_iff_ne] at hfit
      refine .mark hfit.1.1.1 (punct_longest hfit.1.1.2 hfit.1.2) (fun hdot => ?_) h
      have hdigit := hfit.2
      simp only [hdot, bne_self_eq_false, Bool.false_or, Bool.not_eq_true'] at hdigit
      cases m with
      | nil => cases cs <;> exact hdigit
      | cons d m => exact hdigit
  | literal q value => exact .literal h
  | zero => exact .zero hfit h

/-- Lexemes that fit spell their tokens. -/
theorem spelled_append {ls : List Lexeme} {cs : List Char} {ts : List (Token × Bool)}
    (hfit : allFit cs.head? ls) (h : Spelled cs ts) :
    Spelled (charsOf ls ++ cs) (tokensOf ls ts) := by
  induction ls with
  | nil => exact h
  | cons l ls ih =>
    simp only [allFit, Bool.and_eq_true] at hfit
    rw [charsOf, List.flatMap_cons, List.append_assoc]
    exact spelled_lexeme (by rw [List.head?_append]; exact hfit.1) (ih hfit.2)

/-- Lexemes that fit before a character spell their tokens before it. -/
theorem spelled_before {ls : List Lexeme} {c : Char} {cs : List Char} {ts : List (Token × Bool)}
    (hfit : allFit (some c) ls) (h : Spelled (c :: cs) ts) :
    Spelled (charsOf ls ++ c :: cs) (tokensOf ls ts) := spelled_append hfit h

end ScriptHost.ProtoScript
