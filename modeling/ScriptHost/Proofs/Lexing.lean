import ScriptHost.ProtoScript.Parser.Lexer
import ScriptHost.ProtoScript.Quoted
import ScriptHost.Proofs.Units
import Mathlib.Data.List.Induction

/-!
# What the tokens of a text are

A relation between characters and tokens that says nothing of positions, for texts made of words, marks,
string literals, zeros and blanks, and the proof that the parser reads such texts as the relation has it.

* `Spelled` — characters and the tokens they spell, up to the end of the text.
* `Lexer.next_spelled` — passing a token.
* `Lexer.peek_spelled` — looking at the next token.
-/

namespace ScriptHost.ProtoScript

open Text (Units)

/-! ## Steps of the parser -/

namespace Parse

variable {α β : Type}

theorem bind_apply (p : Parse α) (f : α → Parse β) (s : ParserState) :
    (p >>= f) s = match p s with
      | .ok a s' => f a s'
      | .error e s' => .error e s' := by
  show EStateM.bind p f s = _
  unfold EStateM.bind
  cases p s <;> rfl

theorem map_apply (f : α → β) (p : Parse α) (s : ParserState) :
    (f <$> p) s = match p s with
      | .ok a s' => .ok (f a) s'
      | .error e s' => .error e s' := by
  show EStateM.map f p s = _
  unfold EStateM.map
  cases p s <;> rfl

theorem tryCatch_apply (p : Parse α) (f : SyntaxFault → Parse α) (s : ParserState) :
    (tryCatch p f) s = match p s with
      | .ok a s' => .ok a s'
      | .error e s' => f e s' := by
  show EStateM.tryCatch p f s = _
  unfold EStateM.tryCatch
  cases p s <;> rfl

theorem pure_apply (a : α) (s : ParserState) : (pure a : Parse α) s = .ok a s := rfl

theorem get_apply (s : ParserState) : (get : Parse ParserState) s = .ok s s := rfl

theorem set_apply (s s' : ParserState) : (set s' : Parse Unit) s = .ok () s' := rfl

theorem modify_apply (f : ParserState → ParserState) (s : ParserState) :
    (modify f : Parse Unit) s = .ok () (f s) := rfl

end Parse

open Parse

/-! ## Characters -/

/-- A blank that does not end a line. -/
def isGap (c : Char) : Bool := c == ' ' || c == '\t'

/-- A character that is no blank and starts no comment. -/
def isSolid (c : Char) : Bool :=
  !Lexer.isSpace c && !Lexer.isNewline c && c != '/' && c != '<' && c != '-'

/-- A character after which a word does not go on. -/
def endsWord (c : Char) : Bool := !Lexer.isIdentPart c && c != '\\'

/-- Characters that punctuation starts with, and nothing else. -/
def marks : List Char :=
  ['(', ')', '[', ']', '\x7b', '\x7d', ',', ';', ':', '?', '=', '+', '|', '.']

/-- How a character is written inside single quotes. -/
def literalChar (c : Char) : List Char :=
  if c = '\\' then ['\\', '\\']
  else if c = '\'' then ['\\', '\'']
  else if c = '\r' then ['\\', 'r']
  else if c = '\n' then ['\\', 'n']
  else if c = '\t' then ['\\', 't']
  else if c = Char.ofNat 0x2028 then ['\\', 'u', '2', '0', '2', '8']
  else if c = Char.ofNat 0x2029 then ['\\', 'u', '2', '0', '2', '9']
  else [c]

/-- The quotes around a string literal. -/
inductive Quotes where
  | single
  | double
deriving DecidableEq

/-- The character that a literal starts and ends with. -/
def Quotes.mark : Quotes → Char
  | .single => '\''
  | .double => '"'

/-- How a character is written between quotes. -/
def Quotes.write : Quotes → Char → List Char
  | .single => literalChar
  | .double => quoteChar

/-- Characters as a string literal. -/
def Quotes.literal (q : Quotes) (value : List Char) : List Char :=
  q.mark :: value.flatMap q.write ++ [q.mark]

/-- A character with which neither a word nor a numeral goes on. -/
def endsNumeral (c : Char) : Bool := endsWord c && c != '.'

/-- The number that a single zero is read as. -/
def zero : Float := .ofScientific 0 true 0

/-- The token of a word. -/
def wordToken (name : String) : Token :=
  if Lexer.keywords.contains name then .keyword name else .ident name false false

/-! ## The relation -/

/-- Characters up to the end of a text, and the tokens they spell; each with whether a line ends
before it. -/
inductive Spelled : List Char → List (Token × Bool) → Prop where
  | nothing : Spelled [] [(.eof, false)]
  | gap {c : Char} {cs : List Char} {t : Token} {nl : Bool} {ts : List (Token × Bool)} :
    isGap c → Spelled cs ((t, nl) :: ts) → Spelled (c :: cs) ((t, nl) :: ts)
  | line {cs : List Char} {t : Token} {nl : Bool} {ts : List (Token × Bool)} :
    Spelled cs ((t, nl) :: ts) → Spelled ('\n' :: cs) ((t, true) :: ts)
  | word {c : Char} {w cs : List Char} {ts : List (Token × Bool)} :
    isSolid c → Lexer.isIdentStart c → w.all Lexer.isIdentPart → cs.head?.all endsWord → Spelled cs ts →
    Spelled (c :: w ++ cs) ((wordToken (String.ofList (c :: w)), false) :: ts)
  /-- Punctuation, if it is the longest that stands there. -/
  | mark {c : Char} {m cs : List Char} {ts : List (Token × Bool)} :
    c ∈ marks →
    (∀ p, Lexer.punct ⟨p, c :: m ++ cs⟩
      = (.punct (String.ofList (c :: m)), ⟨p + m.length + 1, cs⟩)) →
    (c = '.' → ((m ++ cs).headD ' ').isDigit = false) → Spelled cs ts →
    Spelled (c :: m ++ cs) ((.punct (String.ofList (c :: m)), false) :: ts)
  /-- A string literal. -/
  | literal {q : Quotes} {value cs : List Char} {ts : List (Token × Bool)} :
    Spelled cs ts → Spelled (q.literal value ++ cs) ((.string (Units.ofChars value).toArray, false) :: ts)
  | zero {cs : List Char} {ts : List (Token × Bool)} :
    cs.head?.all endsNumeral → Spelled cs ts → Spelled ('0' :: cs) ((.number zero, false) :: ts)

/-- Every token but the end takes a character. -/
theorem Spelled.length_le {cs : List Char} {ts : List (Token × Bool)} (h : Spelled cs ts) :
    ts.length ≤ cs.length + 1 := by
  induction h with
  | nothing => simp
  | gap _ _ ih | line _ ih => simp at ih ⊢; omega
  | word _ _ _ _ _ ih | mark _ _ _ _ ih | zero _ _ ih => simp at ih ⊢; omega
  | literal _ ih => simp [Quotes.literal] at ih ⊢; omega

/-! ## Words -/

/-- Facts about ASCII characters are decided one by one. -/
theorem forall_ascii {p : Char → Bool} (h : (List.range 0x80).all fun n => p (Char.ofNat n))
    {c : Char} (hc : c.toNat < 0x80) : p c := by
  rw [List.all_eq_true] at h
  simpa [Char.ofNat_toNat] using h c.toNat (List.mem_range.mpr hc)

theorem ne_backslash {c : Char} (h : Lexer.isIdentPart c) : c ≠ '\\' := by
  rintro rfl
  exact absurd h (by decide +kernel)

/-- The rest of a word is read up to its end. -/
theorem nameRest_word {w cs : List Char} (p : Nat) {fuel : Nat} (acc : String)
    (hw : w.all Lexer.isIdentPart) (hcs : cs.head?.all endsWord) (hfuel : w.length < fuel) :
    Lexer.nameRest fuel ⟨p, w ++ cs⟩ acc false
      = (⟨p + w.length, cs⟩, acc ++ String.ofList w, false) := by
  induction w generalizing p fuel acc with
  | nil =>
    obtain ⟨fuel, rfl⟩ : ∃ n, fuel = n + 1 := ⟨fuel - 1, by simp at hfuel; omega⟩
    cases cs with
    | nil => simp [Lexer.nameRest, Cursor.char, Cursor.atEnd]
    | cons c cs =>
      simp only [List.head?_cons, Option.all_some, endsWord, Bool.and_eq_true, bne_iff_ne,
        Bool.not_eq_true'] at hcs
      simp [Lexer.nameRest, Cursor.char, hcs.1, hcs.2]
  | cons c w ih =>
    obtain ⟨fuel, rfl⟩ : ∃ n, fuel = n + 1 := ⟨fuel - 1, by simp at hfuel; omega⟩
    simp only [List.all_cons, Bool.and_eq_true] at hw
    have hread := ih (p + 1) (acc.push c) hw.2 (by simpa using hfuel)
    have hpos : p + 1 + w.length = p + (c :: w).length := by simp; omega
    have hacc : acc.push c ++ String.ofList w = acc ++ String.ofList (c :: w) := by
      simp [String.ext_iff]
    simp only [List.cons_append, Lexer.nameRest, Cursor.char, List.headD_cons, ne_backslash hw.1,
      hw.1, Cursor.atEnd, Cursor.skip, List.drop_succ_cons, List.drop_zero, beq_iff_eq,
      Bool.and_eq_true, false_and, if_false, List.isEmpty_cons, Bool.not_false, and_self, if_true,
      hread, hpos, hacc]

/-! ## String literals -/

theorem Quotes.mark_plain (q : Quotes) : q.mark ≠ '\\' ∧ (q.mark.toNat == 0x60) = false := by
  cases q <;> decide

/-- An escape is read as the character that it stands for. -/
theorem stringBody_escape {q : Quotes} {e : Char} (es : List Char) {cs : List Char} {n p fuel : Nat}
    {acc : Units} {s : ParserState}
    (h : Lexer.escapeAt false ⟨p + 1, e :: es ++ cs⟩ s
      = .ok (some ([n], ⟨p + es.length + 2, cs⟩)) s) :
    Lexer.stringBody q.mark (fuel + 1) ⟨p, '\\' :: e :: es ++ cs⟩ acc s
      = Lexer.stringBody q.mark fuel ⟨p + es.length + 2, cs⟩ (acc.pushCode n) s := by
  rw [List.cons_append] at h
  simp [Lexer.stringBody, Cursor.char, Cursor.charAfter, Cursor.atEnd, Cursor.skip, bind_apply,
    q.mark_plain.1.symm, q.mark_plain.2, h]

theorem stringBody_bare {q : Quotes} {c : Char} {cs : List Char} {p fuel : Nat} {acc : Units} {s : ParserState}
    (hc : c ≠ q.mark ∧ c ≠ '\\' ∧ c ≠ '\n' ∧ c ≠ '\r') :
    Lexer.stringBody q.mark (fuel + 1) ⟨p, c :: cs⟩ acc s
      = Lexer.stringBody q.mark fuel ⟨p + 1, cs⟩ (acc.pushCode c.toNat) s := by
  simp [Lexer.stringBody, Cursor.char, Cursor.atEnd, Cursor.skip, q.mark_plain.2, hc]

/-- One character between single quotes is read. -/
theorem stringBody_literalChar (c : Char) (cs : List Char) (p fuel : Nat) (acc : Units)
    (s : ParserState) :
    Lexer.stringBody Quotes.single.mark (fuel + 1) ⟨p, literalChar c ++ cs⟩ acc s
      = Lexer.stringBody Quotes.single.mark fuel ⟨p + (literalChar c).length, cs⟩ (acc.pushCode c.toNat) s := by
  unfold literalChar
  split
  · next h => subst h; exact stringBody_escape [] rfl
  split
  · next h => subst h; exact stringBody_escape [] rfl
  split
  · next h => subst h; exact stringBody_escape [] rfl
  split
  · next h => subst h; exact stringBody_escape [] rfl
  split
  · next h => subst h; exact stringBody_escape [] rfl
  split
  · next h => subst h; exact stringBody_escape ['2', '0', '2', '8'] rfl
  split
  · next h => subst h; exact stringBody_escape ['2', '0', '2', '9'] rfl
  · next hback hquote hreturn hline _ _ _ =>
    exact stringBody_bare ⟨hquote, hback, hline, hreturn⟩

theorem digitValue_hexDigit {n : Nat} (h : n < 0x10) : Lexer.digitValue (hexDigit n) = n := by
  have hall : (List.range 0x10).all fun n => Lexer.digitValue (hexDigit n) == n := by decide +kernel
  simpa using List.all_eq_true.mp hall n (List.mem_range.mpr h)

/-- A control character is read from its code. -/
theorem escapeAt_control {n : Nat} (h : n < 0x20) (cs : List Char) (p : Nat) (s : ParserState) :
    Lexer.escapeAt false ⟨p, ['u', '0', '0', hexDigit (n / 16), hexDigit (n % 16)] ++ cs⟩ s
      = .ok (some ([n], ⟨p + 5, cs⟩)) s := by
  have hhigh : n / 16 < 0x10 := by omega
  have hlow : n % 16 < 0x10 := Nat.mod_lt _ (by decide)
  have hvalue : 16 * (n / 16) + n % 16 = n := Nat.div_add_mod n 16
  have hzero : Lexer.digitValue '0' = 0 := rfl
  have hdigits : Lexer.hexDigits 4 ⟨p + 1, '0' :: '0' :: hexDigit (n / 16) :: hexDigit (n % 16) :: cs⟩ 0
      = some n := by
    simp [Lexer.hexDigits, Cursor.char, Cursor.skip, hzero, digitValue_hexDigit hhigh, digitValue_hexDigit hlow,
      hhigh, hlow, hvalue]
  simp [Lexer.escapeAt, Lexer.unicodeEscape, Cursor.char, Cursor.skip, hdigits, pure_apply]

/-- One character between double quotes is read. -/
theorem stringBody_quoteChar (c : Char) (cs : List Char) (p fuel : Nat) (acc : Units) (s : ParserState) :
    Lexer.stringBody Quotes.double.mark (fuel + 1) ⟨p, quoteChar c ++ cs⟩ acc s
      = Lexer.stringBody Quotes.double.mark fuel ⟨p + (quoteChar c).length, cs⟩ (acc.pushCode c.toNat) s := by
  unfold quoteChar
  split
  · next h => subst h; exact stringBody_escape [] rfl
  split
  · next h => subst h; exact stringBody_escape [] rfl
  split
  · next h => subst h; exact stringBody_escape [] rfl
  split
  · next h => subst h; exact stringBody_escape [] rfl
  split
  · next h => rw [h]; exact stringBody_escape ['2', '0', '2', '8'] rfl
  split
  · next h => rw [h]; exact stringBody_escape ['2', '0', '2', '9'] rfl
  split
  · next h => exact stringBody_escape ['0', '0', _, _] (escapeAt_control h cs (p + 1) s)
  · next hquote hback hline hreturn _ _ _ =>
    exact stringBody_bare ⟨hquote, hback, hline, hreturn⟩

theorem stringBody_write (q : Quotes) (c : Char) (cs : List Char) (p fuel : Nat) (acc : Units) (s : ParserState) :
    Lexer.stringBody q.mark (fuel + 1) ⟨p, q.write c ++ cs⟩ acc s
      = Lexer.stringBody q.mark fuel ⟨p + (q.write c).length, cs⟩ (acc.pushCode c.toNat) s := by
  cases q with
  | single => exact stringBody_literalChar c cs p fuel acc s
  | double => exact stringBody_quoteChar c cs p fuel acc s

theorem length_write_pos (q : Quotes) (c : Char) : 0 < (q.write c).length := by
  cases q with
  | single =>
    show 0 < (literalChar c).length
    unfold literalChar
    repeat' split
    all_goals simp
  | double =>
    show 0 < (quoteChar c).length
    unfold quoteChar
    repeat' split
    all_goals simp

theorem length_le_quoted (q : Quotes) (value : List Char) :
    value.length ≤ (value.flatMap q.write).length := by
  induction value with
  | nil => simp
  | cons c value ih =>
    have := length_write_pos q c
    simp only [List.flatMap_cons, List.length_append, List.length_cons]
    omega

/-- The characters between quotes are read up to the closing one. -/
theorem stringBody_quoted (q : Quotes) (value cs : List Char) (p fuel : Nat) (acc : Units) (s : ParserState)
    (hfuel : value.length < fuel) :
    Lexer.stringBody q.mark fuel ⟨p, value.flatMap q.write ++ q.mark :: cs⟩ acc s
      = .ok (some (acc ++ (Units.ofChars value).toArray,
          ⟨p + (value.flatMap q.write).length + 1, cs⟩)) s := by
  induction value generalizing p fuel acc with
  | nil =>
    obtain ⟨fuel, rfl⟩ : ∃ n, fuel = n + 1 := ⟨fuel - 1, by simp at hfuel; omega⟩
    simp [Lexer.stringBody, Cursor.char, Cursor.atEnd, Cursor.skip, pure_apply]
  | cons c value ih =>
    obtain ⟨fuel, rfl⟩ : ∃ n, fuel = n + 1 := ⟨fuel - 1, by simp at hfuel; omega⟩
    rw [List.flatMap_cons, List.append_assoc, stringBody_write,
      ih _ _ _ (by simpa using hfuel), Units.pushCode_toNat]
    simp [Nat.add_assoc]

/-! ## Tokens -/

/-- What stays the same when tokens are read. -/
structure Kept (s s' : ParserState) : Prop where
  size : s'.size = s.size
  fn : s'.fn = s.fn
  outer : s'.outer = s.outer
  base : s'.base = s.base
  codes : s'.codes = s.codes
  file : s'.file = s.file

theorem Kept.refl (s : ParserState) : Kept s s := ⟨rfl, rfl, rfl, rfl, rfl, rfl⟩

theorem Kept.trans {s s' s'' : ParserState} (h : Kept s s') (h' : Kept s' s'') : Kept s s'' :=
  ⟨h'.size.trans h.size, h'.fn.trans h.fn, h'.outer.trans h.outer, h'.base.trans h.base,
    h'.codes.trans h.codes, h'.file.trans h.file⟩

/-- The characters of a token stand here, without blanks in front. -/
def Begins (cs : List Char) (t : Token) (ts : List (Token × Bool)) : Prop :=
  Spelled cs ((t, false) :: ts) ∧ cs.head?.all fun c => !(isGap c || c == '\n')

/-- Unless the text has ended, these are its tokens. -/
def Follow (cs : List Char) (ts : List (Token × Bool)) : Prop := ts ≠ [] → Spelled cs ts

/-- A function in which only the keywords are reserved. -/
structure FunctionState.IsPlain (f : FunctionState) : Prop where
  strict : f.code.strict = false
  kind : f.code.kind = .normal
  form : f.code.form ≠ .arrow

theorem isReserved_plain {s : ParserState} (h : s.fn.IsPlain) (name : String) :
    Lexer.isReserved name s = .ok (Lexer.keywords.contains name) s := by
  have hform : (s.fn.code.form == FunctionForm.arrow) = false := beq_eq_false_iff_ne.mpr h.form
  unfold Lexer.isReserved
  split
  · next hkeyword => rw [hkeyword]; rfl
  · next hkeyword =>
    rw [Bool.not_eq_true] at hkeyword
    rw [hkeyword]
    simp only [bind_apply, get_apply, h.strict, h.kind, hform, Bool.false_and, Bool.false_eq_true, if_false]
    split
    · rfl
    · split <;> rfl

theorem wordToken_apply {s : ParserState} (h : s.fn.IsPlain) (name : String) :
    Lexer.wordToken name false s = .ok (wordToken name) s := by
  unfold Lexer.wordToken wordToken
  rw [bind_apply, isReserved_plain h name]
  cases Lexer.keywords.contains name <;> rfl

theorem tokenAt_word {c : Char} {w cs : List Char} {s : ParserState} {p : Nat}
    (hc : Lexer.isIdentStart c) (hw : w.all Lexer.isIdentPart) (hcs : cs.head?.all endsWord)
    (hsize : (c :: w ++ cs).length ≤ s.size) (hplain : s.fn.IsPlain) :
    Lexer.tokenAt ⟨p, c :: w ++ cs⟩ s
      = .ok (wordToken (String.ofList (c :: w)), ⟨p + 1 + w.length, cs⟩) s := by
  have hquote : c ≠ '\'' ∧ c ≠ '"' ∧ c.toNat ≠ 0x60 := by
    refine ⟨?_, ?_, ?_⟩
    · rintro rfl; exact absurd hc (by decide +kernel)
    · rintro rfl; exact absurd hc (by decide +kernel)
    · intro h
      have : c = Char.ofNat 0x60 := by rw [← h, Char.ofNat_toNat]
      subst this
      exact absurd hc (by decide +kernel)
  have hfuel : w.length < s.size := by
    simp at hsize
    omega
  have hread := nameRest_word (p + 1) (String.singleton c) hw hcs hfuel
  rw [show String.singleton c ++ String.ofList w = String.ofList (c :: w) by simp] at hread
  have htoken := wordToken_apply hplain (String.ofList (c :: w))
  simp only [List.cons_append] at hread ⊢
  simp [Lexer.tokenAt, bind_apply, get_apply, Cursor.char, Cursor.atEnd, Cursor.skip, hquote, hc,
    hread, map_apply, -String.ofList_cons, htoken]

theorem plain_of_mem_marks {c : Char} (hc : c ∈ marks) :
    c ≠ '\'' ∧ c ≠ '"' ∧ c.toNat ≠ 0x60 ∧ Lexer.isIdentStart c = false ∧ c.isDigit = false ∧
      c ≠ '#' ∧ c ≠ '\\' ∧ c.toNat < 0x80 := by
  have h : marks.all fun c => c != '\'' && c != '"' && c.toNat != 0x60 && !Lexer.isIdentStart c
      && !c.isDigit && c != '#' && c != '\\' && decide (c.toNat < 0x80) := by decide +kernel
  simpa [and_assoc] using List.all_eq_true.mp h c hc

theorem tokenAt_mark {c : Char} {m cs : List Char} {s : ParserState} {p : Nat} (hc : c ∈ marks)
    (hdigit : c = '.' → ((m ++ cs).headD ' ').isDigit = false) :
    Lexer.tokenAt ⟨p, c :: m ++ cs⟩ s = .ok (Lexer.punct ⟨p, c :: m ++ cs⟩) s := by
  have hnext : ¬ (c = '.' ∧ ((m ++ cs)[0]?.getD '\x00').isDigit = true) := by
    rintro ⟨hdot, hnext⟩
    have hno := hdigit hdot
    cases hrest : m ++ cs with
    | nil => simp [hrest] at hnext
    | cons d ds => simp [hrest] at hnext hno; simp [hnext] at hno
  obtain ⟨hquote, hdouble, hback, hstart, hd, hhash, hslash, hlt⟩ := plain_of_mem_marks hc
  simp [Lexer.tokenAt, bind_apply, get_apply, Cursor.char, Cursor.charAfter, Cursor.atEnd, hquote,
    hdouble, hback, hstart, hd, hhash, hslash, Nat.not_le.mpr hlt, hnext, pure_apply]

theorem tokenAt_literal {q : Quotes} {value cs : List Char} {s : ParserState} {p : Nat}
    (hsize : (q.literal value ++ cs).length ≤ s.size) :
    Lexer.tokenAt ⟨p, q.literal value ++ cs⟩ s
      = .ok (.string (Units.ofChars value).toArray,
          ⟨p + 1 + (value.flatMap q.write).length + 1, cs⟩) s := by
  have hlength := length_le_quoted q value
  have hfuel : value.length < s.size := by
    simp only [Quotes.literal, List.cons_append, List.length_cons, List.length_append] at hsize
    omega
  have hread := stringBody_quoted q value cs (p + 1) s.size #[] s hfuel
  have hmark : (q.mark == '\'' || q.mark == '"') = true := by
    cases q <;> rfl
  simp [Lexer.tokenAt, Lexer.string, Quotes.literal, bind_apply, get_apply, Cursor.char, Cursor.atEnd,
    Cursor.skip, hread, pure_apply, -Bool.or_eq_true, hmark]

theorem endsNumeral_head {cs : List Char} (hcs : cs.head?.all endsNumeral) :
    Lexer.isIdentPart (cs.headD '\x00') = false ∧ cs.headD '\x00' ≠ '.' := by
  cases cs with
  | nil => exact ⟨by decide +kernel, by decide⟩
  | cons c cs =>
    simp only [List.head?_cons, Option.all_some, endsNumeral, endsWord, Bool.and_eq_true, Bool.not_eq_true',
      bne_iff_ne] at hcs
    exact ⟨hcs.1.1, hcs.2⟩

theorem isIdentPart_of_isDigit {c : Char} (h : c.isDigit) : Lexer.isIdentPart c := by
  have hc : c.toNat < 0x80 := by
    have hdigit : c.isDigit = (c.val ≥ '0'.val && c.val ≤ '9'.val) := rfl
    have hval : c.toNat = c.val.toNat := rfl
    simp only [hdigit, Bool.and_eq_true, decide_eq_true_eq, ge_iff_le, UInt32.le_iff_toNat_le] at h
    simp at h
    omega
  simpa [h] using forall_ascii (p := fun c => !c.isDigit || Lexer.isIdentPart c) (by decide +kernel) hc

/-- A zero with which no longer numeral begins. -/
theorem tokenAt_zero {cs : List Char} {s : ParserState} {p : Nat} (hcs : cs.head?.all endsNumeral) :
    Lexer.tokenAt ⟨p, '0' :: cs⟩ s = .ok (.number zero, ⟨p + 1, cs⟩) s := by
  obtain ⟨hpart, hdot⟩ := endsNumeral_head hcs
  have hafter : (⟨p, '0' :: cs⟩ : Cursor).charAfter 1 = cs.headD '\x00' := by cases cs <;> rfl
  have hskip : (⟨p, '0' :: cs⟩ : Cursor).skip 1 = ⟨p + 1, cs⟩ := rfl
  have hchar : (⟨p + 1, cs⟩ : Cursor).char = cs.headD '\x00' := rfl
  generalize cs.headD '\x00' = d at hpart hdot hafter hchar
  have hdigit : d.isDigit = false := by
    by_contra h
    exact absurd (isIdentPart_of_isDigit (Bool.of_not_eq_false h)) (by simp [hpart])
  have hletter (e : Char) (he : Lexer.isIdentPart e) : (d == e) = false := by
    rw [beq_eq_false_iff_ne]
    rintro rfl
    exact absurd (hpart ▸ he) (by decide)
  have htail : Lexer.decimalTail 0 1 ⟨p + 1, cs⟩ s = .ok (.number zero, ⟨p + 1, cs⟩) s := by
    simp [Lexer.decimalTail, Lexer.endNumber, bind_apply, get_apply, pure_apply, hchar, hpart,
      beq_eq_false_iff_ne.mpr hdot, hletter 'e' (by decide +kernel), hletter 'E' (by decide +kernel),
      hletter 'n' (by decide +kernel), zero]
  have hnumber : Lexer.number ⟨p, '0' :: cs⟩ s = .ok (.number zero, ⟨p + 1, cs⟩) s := by
    have hstrict : isStrict s = .ok s.fn.code.strict s := rfl
    simp [Lexer.number, Cursor.char, bind_apply, get_apply, hstrict, hafter, hdigit, hskip,
      hletter 'x' (by decide +kernel), hletter 'X' (by decide +kernel), hletter 'o' (by decide +kernel),
      hletter 'O' (by decide +kernel), hletter 'b' (by decide +kernel), hletter 'B' (by decide +kernel), htail]
  simpa [Lexer.tokenAt, bind_apply, get_apply, Cursor.char, Cursor.atEnd,
    show Lexer.isIdentStart '0' = false by decide +kernel] using hnumber

/-- The token at a place is read. -/
theorem tokenAt_begins {cs : List Char} {t : Token} {ts : List (Token × Bool)}
    (h : Begins cs t ts) {s : ParserState} (hsize : cs.length ≤ s.size)
    (hplain : s.fn.IsPlain) (p : Nat) :
    ∃ q rest, Lexer.tokenAt ⟨p, cs⟩ s = .ok (t, ⟨q, rest⟩) s ∧ Follow rest ts
      ∧ rest.length ≤ s.size := by
  obtain ⟨h, hblank⟩ := h
  cases h with
  | nothing => exact ⟨p, [], rfl, by simp [Follow], by simp⟩
  | gap hgap _ => simp [hgap] at hblank
  | word hsolid hc hw hcs hrest =>
    exact ⟨_, _, tokenAt_word hc hw hcs hsize hplain, fun _ => hrest,
      by simp at hsize; omega⟩
  | mark hc hpunct hdigit hrest =>
    exact ⟨_, _, (tokenAt_mark hc hdigit).trans (congrArg (EStateM.Result.ok · s) (hpunct p)),
      fun _ => hrest, by simp at hsize; omega⟩
  | literal hrest =>
    exact ⟨_, _, tokenAt_literal hsize, fun _ => hrest, by simp at hsize; omega⟩
  | zero hcs hrest =>
    exact ⟨_, _, tokenAt_zero hcs, fun _ => hrest, by simp at hsize; omega⟩

/-! ## Blanks -/

theorem isSolid_mark {c : Char} (hc : c ∈ marks) : isSolid c := by
  have h : marks.all isSolid := by decide +kernel
  exact List.all_eq_true.mp h c hc

theorem not_blank_of_solid {c : Char} (hc : isSolid c) : !(isGap c || c == '\n') := by
  simp only [isSolid, Bool.and_eq_true, Bool.not_eq_true'] at hc
  have hspace : isGap c = false := by
    by_contra h
    simp only [isGap, Bool.or_eq_true, beq_iff_eq, Bool.not_eq_false] at h
    rcases h with rfl | rfl <;> exact absurd hc.1.1.1.1 (by decide)
  have hline : c ≠ '\n' := by
    rintro rfl
    exact absurd hc.1.1.1.2 (by decide)
  simp [hspace, hline]

theorem skipSpace_solid {c : Char} (hc : isSolid c) (cs : List Char) (fuel p : Nat)
    (s : ParserState) : Lexer.skipSpace fuel ⟨p, c :: cs⟩ s = .ok ⟨p, c :: cs⟩ s := by
  cases fuel with
  | zero => rfl
  | succ fuel =>
    simp only [isSolid, Bool.and_eq_true, Bool.not_eq_true', bne_iff_ne] at hc
    obtain ⟨⟨⟨⟨hspace, hline⟩, hslash⟩, hless⟩, hminus⟩ := hc
    have hreturn : c ≠ '\r' := by
      rintro rfl
      exact absurd hline (by decide)
    simp [Lexer.skipSpace, Cursor.char, Cursor.atEnd, hspace, hline, hslash, hless, hminus, hreturn,
      pure_apply]

/-- Where a token begins, no blanks are skipped. -/
theorem skipSpace_begins {cs : List Char} {t : Token} {ts : List (Token × Bool)}
    (h : Begins cs t ts) (fuel p : Nat) (s : ParserState) :
    Lexer.skipSpace fuel ⟨p, cs⟩ s = .ok ⟨p, cs⟩ s := by
  obtain ⟨h, hblank⟩ := h
  cases h with
  | nothing => cases fuel <;> rfl
  | gap hgap _ => simp [hgap] at hblank
  | word hsolid hc hw hcs hrest => exact skipSpace_solid hsolid _ _ _ _
  | mark hc hpunct hdigit hrest => exact skipSpace_solid (isSolid_mark hc) _ _ _ _
  | @literal q _ _ _ _ => exact skipSpace_solid (show isSolid q.mark by cases q <;> decide) _ _ _ _
  | zero _ _ => exact skipSpace_solid (by decide) _ _ _ _

/-- The text begins with a token or with a blank. -/
theorem Spelled.begins_or {cs : List Char} {t : Token} {nl : Bool} {ts : List (Token × Bool)}
    (h : Spelled cs ((t, nl) :: ts)) :
    Begins cs t ts ∧ nl = false
      ∨ (∃ c cs', cs = c :: cs' ∧ isGap c ∧ Spelled cs' ((t, nl) :: ts))
      ∨ ∃ cs' nl', cs = '\n' :: cs' ∧ nl = true ∧ Spelled cs' ((t, nl') :: ts) := by
  cases h with
  | nothing => exact .inl ⟨⟨.nothing, rfl⟩, rfl⟩
  | gap hgap hrest => exact .inr (.inl ⟨_, _, rfl, hgap, hrest⟩)
  | line hrest => exact .inr (.inr ⟨_, _, rfl, rfl, hrest⟩)
  | word hsolid hc hw hcs hrest =>
    exact .inl ⟨⟨.word hsolid hc hw hcs hrest, not_blank_of_solid hsolid⟩, rfl⟩
  | mark hc hpunct hdigit hrest =>
    exact .inl ⟨⟨.mark hc hpunct hdigit hrest, not_blank_of_solid (isSolid_mark hc)⟩, rfl⟩
  | @literal q _ _ _ hrest =>
    exact .inl ⟨⟨.literal hrest, not_blank_of_solid (show isSolid q.mark by cases q <;> decide)⟩, rfl⟩
  | zero hcs hrest => exact .inl ⟨⟨.zero hcs hrest, rfl⟩, rfl⟩

theorem skipSpace_gap {c : Char} (hc : isGap c) (cs : List Char) (fuel p : Nat) (s : ParserState) :
    Lexer.skipSpace (fuel + 1) ⟨p, c :: cs⟩ s = Lexer.skipSpace fuel ⟨p + 1, cs⟩ s := by
  have hspace : Lexer.isSpace c := by
    simp only [isGap, Bool.or_eq_true, beq_iff_eq] at hc
    rcases hc with rfl | rfl <;> decide
  simp [Lexer.skipSpace, Cursor.char, Cursor.atEnd, Cursor.skip, hspace]

theorem skipSpace_line (cs : List Char) (fuel p : Nat) (s : ParserState) :
    Lexer.skipSpace (fuel + 1) ⟨p, '\n' :: cs⟩ s
      = Lexer.skipSpace fuel ⟨p + 1, cs⟩
          { s with newline := true, line := s.line + 1, lineStart := p + 1 } := rfl

/-- Blanks are skipped up to the next token. -/
theorem skipSpace_spelled {cs : List Char} {t : Token} {nl : Bool} {ts : List (Token × Bool)}
    (h : Spelled cs ((t, nl) :: ts)) {fuel : Nat} (hfuel : cs.length < fuel) (p : Nat)
    (s : ParserState) :
    ∃ q cs' s', Lexer.skipSpace fuel ⟨p, cs⟩ s = .ok ⟨q, cs'⟩ s' ∧ Begins cs' t ts
      ∧ cs'.length ≤ cs.length ∧ Kept s s' ∧ s'.newline = (s.newline || nl) := by
  induction cs generalizing nl fuel p s with
  | nil =>
    rcases h.begins_or with ⟨hb, rfl⟩ | ⟨_, _, h, _⟩ | ⟨_, _, h, _⟩
    · exact ⟨p, [], s, skipSpace_begins hb _ _ _, hb, Nat.le_refl _, .refl s, by simp⟩
    · cases h
    · cases h
  | cons c cs ih =>
    obtain ⟨fuel, rfl⟩ : ∃ n, fuel = n + 1 := ⟨fuel - 1, by omega⟩
    rw [List.length_cons, Nat.add_lt_add_iff_right] at hfuel
    rcases h.begins_or with ⟨hb, rfl⟩ | ⟨_, _, heq, hgap, hrest⟩ | ⟨_, nl', heq, rfl, hrest⟩
    · exact ⟨p, c :: cs, s, skipSpace_begins hb _ _ _, hb, Nat.le_refl _, .refl s, by simp⟩
    · cases heq
      obtain ⟨q, cs', s', hskip, hb, hlength, hkept, hnl⟩ := ih hrest hfuel (p + 1) s
      exact ⟨q, cs', s', (skipSpace_gap hgap _ _ _ _).trans hskip, hb,
        Nat.le_succ_of_le hlength, hkept, hnl⟩
    · cases heq
      obtain ⟨q, cs', s', hskip, hb, hlength, hkept, hnl⟩ := ih hrest hfuel (p + 1)
        { s with newline := true, line := s.line + 1, lineStart := p + 1 }
      exact ⟨q, cs', s', (skipSpace_line _ _ _ _).trans hskip, hb, Nat.le_succ_of_le hlength,
        ⟨hkept.size, hkept.fn, hkept.outer, hkept.base, hkept.codes, hkept.file⟩, by simp [hnl]⟩

/-! ## Passing and looking ahead -/

/-- Passing a token: the next one is read, and nothing else changes that does not tell positions. -/
theorem Lexer.next_spelled {s : ParserState} {t : Token} {nl : Bool} {ts : List (Token × Bool)}
    (h : Spelled s.here.rest ((t, nl) :: ts)) (hsize : s.here.rest.length ≤ s.size)
    (hplain : s.fn.IsPlain) :
    ∃ s', Lexer.next s = .ok () s' ∧ Kept s s' ∧ s'.token = t ∧ s'.newline = nl
      ∧ Follow s'.here.rest ts ∧ s'.here.rest.length ≤ s'.size := by
  obtain ⟨q, cs', s₁, hskip, hb, hlength, hkept, hnl⟩ := skipSpace_spelled h
    (Nat.lt_succ_of_le hsize) s.here.pos
    { s with lastLine := s.tokenLine, lastEnd := s.here.pos, newline := false }
  obtain ⟨r, rest, htoken, hfollow, hrest⟩ := tokenAt_begins hb
    (s := { s₁ with
      start := ⟨q, cs'⟩, tokenLine := s₁.line, tokenLineStart := s₁.lineStart, here := ⟨q, cs'⟩ })
    (by simpa [hkept.size] using Nat.le_trans hlength hsize) (by simpa [hkept.fn] using hplain) q
  refine ⟨{ s₁ with
    start := ⟨q, cs'⟩, tokenLine := s₁.line, tokenLineStart := s₁.lineStart, here := ⟨r, rest⟩,
    token := t }, ?_, ?_, ?_, ?_, ?_, ?_⟩
  · simp only [Lexer.next, bind_apply, get_apply, modify_apply, hskip, htoken]
  · exact ⟨hkept.size, hkept.fn, hkept.outer, hkept.base, hkept.codes, hkept.file⟩
  · rfl
  · simpa using hnl
  · exact hfollow
  · exact hrest

/-- Looking at the next token. -/
theorem Lexer.peek_spelled {s : ParserState} {t : Token} {nl : Bool} {ts : List (Token × Bool)}
    (h : Spelled s.here.rest ((t, nl) :: ts)) (hsize : s.here.rest.length ≤ s.size)
    (hplain : s.fn.IsPlain) : Lexer.peek s = .ok (t, nl) s := by
  obtain ⟨q, cs', s₁, hskip, hb, hlength, hkept, hnl⟩ := skipSpace_spelled h
    (Nat.lt_succ_of_le hsize) s.here.pos { s with newline := false }
  obtain ⟨r, rest, htoken, hfollow, hrest⟩ := tokenAt_begins hb (s := s₁)
    (by simpa [hkept.size] using Nat.le_trans hlength hsize) (by simpa [hkept.fn] using hplain) q
  simp only [Bool.false_or] at hnl
  simp only [Lexer.peek, bind_apply, get_apply, modify_apply, hskip, tryCatch_apply, map_apply,
    htoken, set_apply, pure_apply, hnl]

end ScriptHost.ProtoScript
