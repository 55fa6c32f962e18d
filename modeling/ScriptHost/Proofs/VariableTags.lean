import ScriptHost.Proofs.EvaluatedTexts
import ScriptHost.Proofs.TemplateSource

/-!
# Templates of variables

Templates whose tags hold nothing but a variable, and the text of the function that is generated for them, as
lexemes.  The blanks around a variable are the template's own, so a line may end inside a tag.

* `NameTag`, `Sheet` — such tags and templates.
* `bodySource_sheet` — the lexemes of a body are its text.
* `spelled_checked` — **the tokens of the text in which the body is checked**.
-/

namespace ScriptHost.Template

open ProtoScript
open Text (Units)

/-! ## Tags and templates -/

/-- A blank inside a tag. -/
def isBlank (c : Char) : Bool := isGap c || c == '\n'

/-- A tag whose code is a variable between blanks. -/
structure NameTag where
  /-- The value is written with entities. -/
  escapes : Bool
  before : List Char
  name : String
  after : List Char
  before_blank : before.all isBlank
  after_blank : after.all isBlank
  isName : ProtoScript.IsName name
  /-- The function has `arguments` of its own. -/
  ne_arguments : name ≠ "arguments"

namespace NameTag

/-- The code of a tag. -/
def code (t : NameTag) : List Char := t.before ++ (t.name.toList ++ t.after)

/-- What becomes of the code. -/
def kind (t : NameTag) : TagKind := if t.escapes then .escape else .interpolate

end NameTag

/-- A template: literal text, and more literal text after tags. -/
structure Sheet where
  first : List Char
  rest : List (NameTag × List Char)

/-- The pieces of a template. -/
def Sheet.pieces (s : Sheet) : List Piece :=
  .literal (Units.ofChars s.first).toArray :: s.rest.flatMap fun (t, text) =>
    [.tag t.kind (Units.ofChars t.code).toArray, .literal (Units.ofChars text).toArray]

/-! ## Lexemes -/

/-- A blank as a lexeme. -/
def blank (c : Char) : Lexeme := if c = '\n' then .line else .gap c

/-- The code of a tag. -/
def NameTag.lexemes (t : NameTag) : List Lexeme :=
  t.before.map blank ++ .ofWord t.name :: t.after.map blank

/-- What stands before the code of a tag. -/
def tagHead : List Lexeme :=
  [.ofMark "+", .line, .ofMark "(", .ofMark "(", .ofWord "__t", .ofMark "=", .ofMark "("]

/-- What stands behind the code of a tag. -/
def tagMiddle : List Lexeme :=
  [.ofMark ")", .ofMark ")", .ofMark "==", .ofWord "null", .ofMark "?", .noText, .ofMark ":"]

/-- What a tag adds if its variable has a value. -/
def valueLexemes (escapes : Bool) : List Lexeme :=
  if escapes then [.ofWord "_", .ofMark ".", .ofWord "escape", .ofMark "(", .ofWord "__t", .ofMark ")"] else [.ofWord "__t"]

/-- The end of a tag, and the text after it. -/
def tagEnd (text : List Char) : List Lexeme := [.ofMark ")", .ofMark "+", .line, .literal .single text]

/-- A tag and the text after it. -/
def tagLexemes (t : NameTag) (text : List Char) : List Lexeme :=
  tagHead ++ (t.lexemes ++ (tagMiddle ++ (valueLexemes t.escapes ++ tagEnd text)))

/-- All tags, each with the text after it. -/
def restLexemes (rest : List (NameTag × List Char)) : List Lexeme :=
  rest.flatMap fun (t, text) => tagLexemes t text

/-- What stands before the first literal. -/
def headLexemes : List Lexeme :=
  [.ofWord "var", .gap ' ', .ofWord "__t", .ofMark ",", .ofWord "__p", .ofMark "=", .noText, .ofMark ",",
    .ofWord "__j", .ofMark "=", .ofWord "Array", .ofMark ".", .ofWord "prototype", .ofMark ".", .ofWord "join", .ofMark ",",
    .ofWord "print", .ofMark "=", .ofWord "function", .ofMark "(", .ofMark ")", .ofMark "\x7b",
      .ofWord "__p", .ofMark "+=", .ofWord "__j", .ofMark ".", .ofWord "call", .ofMark "(", .ofWord "arguments", .ofMark ",", .noText,
      .ofMark ")", .ofMark ";",
    .ofMark "\x7d", .ofMark ";", .line,
    .ofWord "with", .ofMark "(", .ofWord "obj", .ofMark "||", .ofMark "\x7b", .ofMark "\x7d", .ofMark ")", .ofMark "\x7b", .line,
    .ofWord "__p", .ofMark "+="]

/-- What stands after the last literal. -/
def tailLexemes : List Lexeme :=
  [.ofMark ";", .line, .ofMark "\x7d", .line, .ofWord "return", .gap ' ', .ofWord "__p", .ofMark ";"]

/-- The body of a function. -/
def bodyLexemes (s : Sheet) : List Lexeme :=
  headLexemes ++ .literal .single s.first :: restLexemes s.rest ++ tailLexemes ++ [.line]

/-! ## The lexemes are the text -/

@[simp] theorem charsOf_blanks (cs : List Char) : charsOf (cs.map blank) = cs := by
  induction cs with
  | nil => rfl
  | cons c cs ih =>
    rw [List.map_cons, charsOf_cons, ih]
    unfold blank
    split
    · next h => rw [h]; rfl
    · rfl

theorem NameTag.charsOf_lexemes (t : NameTag) : charsOf t.lexemes = t.code := by
  simp [lexemes, code, Lexeme.chars]

theorem quoteUnits_special {c : Char} (text : String) (hc : Units.ofChar c = [c.toNat.toUInt16])
    (hquote : quoteUnit c.toNat.toUInt16 = Units.ofString text) (hliteral : literalChar c = text.toList) :
    (Units.ofChar c).flatMap (fun u => (quoteUnit u).toList) = Units.ofChars (literalChar c) := by
  rw [hc, List.flatMap_singleton, hquote, Units.ofString_toList, hliteral]

/-- The units with an escape. -/
def escapedUnits : List Nat := [0x5C, 0x27, 0x0D, 0x0A, 0x09, 0x2028, 0x2029]

theorem quoteUnit_bare {u : UInt16} (h : u.toNat ∉ escapedUnits) : quoteUnit u = #[u] := by
  have hne (v : UInt16) (hv : v.toNat ∈ escapedUnits) : u ≠ v := by
    rintro rfl
    exact h hv
  unfold quoteUnit
  rw [if_neg (hne _ (by decide)), if_neg (hne _ (by decide)), if_neg (hne _ (by decide)),
    if_neg (hne _ (by decide)), if_neg (hne _ (by decide)), if_neg (hne _ (by decide)),
    if_neg (hne _ (by decide))]

/-- A character without an escape is written as it is. -/
theorem quoteUnits_bare {c : Char} (h : c.toNat ∉ escapedUnits) :
    (Units.ofChar c).flatMap (fun u => (quoteUnit u).toList) = Units.ofChar c := by
  have hc := Units.toNat_lt_or_gt c
  unfold Units.ofChar
  split
  · next hsmall =>
    rw [List.flatMap_singleton, quoteUnit_bare (by rwa [Units.toNat_toUInt16 hsmall])]
  · next hlarge =>
    have hhigh := Units.toNat_toUInt16 (n := 0xD800 + (c.toNat - 0x10000) / 0x400) (by omega)
    have hlow := Units.toNat_toUInt16 (n := 0xDC00 + (c.toNat - 0x10000) % 0x400) (by omega)
    have hbare (v : UInt16) (hv : 0xD800 ≤ v.toNat) : quoteUnit v = #[v] := by
      refine quoteUnit_bare fun hmem => ?_
      simp only [escapedUnits, List.mem_cons, List.not_mem_nil, or_false] at hmem
      omega
    rw [List.flatMap_cons, List.flatMap_singleton, hbare _ (by omega), hbare _ (by omega)]
    rfl

theorem quoteUnits_ofChar (c : Char) :
    (Units.ofChar c).flatMap (fun u => (quoteUnit u).toList) = Units.ofChars (literalChar c) := by
  by_cases hspecial : c ∈ ['\\', '\'', '\r', '\n', '\t', Char.ofNat 0x2028, Char.ofNat 0x2029]
  · simp only [List.mem_cons, List.not_mem_nil, or_false] at hspecial
    rcases hspecial with rfl | rfl | rfl | rfl | rfl | rfl | rfl
    · exact quoteUnits_special "\\\\" rfl rfl rfl
    · exact quoteUnits_special "\\'" rfl rfl rfl
    · exact quoteUnits_special "\\r" rfl rfl rfl
    · exact quoteUnits_special "\\n" rfl rfl rfl
    · exact quoteUnits_special "\\t" rfl rfl rfl
    · exact quoteUnits_special "\\u2028" rfl rfl rfl
    · exact quoteUnits_special "\\u2029" rfl rfl rfl
  · have hcode : c.toNat ∉ escapedUnits := by
      refine fun hmem => hspecial ?_
      simp only [escapedUnits, List.mem_cons, List.not_mem_nil, or_false] at hmem ⊢
      rcases hmem with hmem | hmem | hmem | hmem | hmem | hmem | hmem <;>
        rw [← Char.ofNat_toNat c, hmem] <;> decide
    have hliteral : literalChar c = [c] := by
      simp only [List.mem_cons, List.not_mem_nil, or_false, not_or] at hspecial
      simp [literalChar, hspecial]
    rw [hliteral, quoteUnits_bare hcode, Units.ofChars_cons, Units.ofChars_nil, List.append_nil]

theorem quoteUnits_ofChars (cs : List Char) :
    quoteUnits (Units.ofChars cs).toArray = (Units.ofChars (cs.flatMap literalChar)).toArray := by
  apply Array.ext'
  rw [quoteUnits, Array.toList_flatMap]
  induction cs with
  | nil => rfl
  | cons c cs ih =>
    rw [Units.ofChars_cons, List.flatMap_append, quoteUnits_ofChar, ih, List.flatMap_cons,
      Units.ofChars_append]

theorem source_literal (cs : List Char) :
    (Piece.literal (Units.ofChars cs).toArray).source.toList = Units.ofChars (cs.flatMap literalChar) := by
  rw [Piece.source, quoteUnits_ofChars]

/-- What stands between the literals around a tag. -/
def NameTag.joint (t : NameTag) : List Char :=
  "+\n((__t=(".toList ++ t.code
    ++ (if t.escapes then "))==null?'':_.escape(__t))+\n" else "))==null?'':__t)+\n").toList

theorem charsOf_tagLexemes (t : NameTag) (text : List Char) :
    charsOf (tagLexemes t text) = t.joint ++ Quotes.single.literal text := by
  unfold tagLexemes NameTag.joint valueLexemes
  simp only [charsOf_append, t.charsOf_lexemes]
  cases t.escapes <;> simp [tagHead, tagMiddle, tagEnd, Lexeme.chars, Quotes.literal, Quotes.mark]

theorem source_tag (t : NameTag) :
    (Piece.tag t.kind (Units.ofChars t.code).toArray).source.toList
      = Units.ofChars ('\'' :: t.joint ++ ['\'']) := by
  unfold NameTag.kind NameTag.joint
  cases t.escapes <;> simp [Piece.source, Units.ofString_eq]

theorem foldl_source (ps : List Piece) (out : Units) :
    (ps.foldl (fun out p => out ++ p.source) out).toList
      = out.toList ++ ps.flatMap fun p => p.source.toList := by
  induction ps generalizing out with
  | nil => simp
  | cons p ps ih => simp [ih]

/-- In the text the quotes around the literals belong to the tags, among the lexemes to the literals. -/
theorem flatMap_joint (rest : List (NameTag × List Char)) :
    (rest.flatMap fun (t, text) => '\'' :: t.joint ++ ['\''] ++ text.flatMap literalChar) ++ ['\'']
      = '\'' :: charsOf (restLexemes rest) := by
  unfold restLexemes
  induction rest with
  | nil => rfl
  | cons tag rest ih =>
    rw [List.flatMap_cons, List.append_assoc, ih, List.flatMap_cons, charsOf_append, charsOf_tagLexemes]
    simp [Quotes.literal, Quotes.mark, Quotes.write]

theorem flatMap_source (rest : List (NameTag × List Char)) :
    (rest.flatMap fun (t, text) =>
      ([.tag t.kind (Units.ofChars t.code).toArray, .literal (Units.ofChars text).toArray] : List Piece)).flatMap
        (fun p => p.source.toList)
      = Units.ofChars (rest.flatMap fun (t, text) => '\'' :: t.joint ++ ['\''] ++ text.flatMap literalChar) := by
  induction rest with
  | nil => rfl
  | cons tag rest ih =>
    rw [List.flatMap_cons, List.flatMap_append, ih, List.flatMap_cons, List.flatMap_cons,
      List.flatMap_nil, List.append_nil, source_tag, source_literal, ← Units.ofChars_append,
      ← Units.ofChars_append]
    rfl

theorem statementsSource_sheet (s : Sheet) :
    (statementsSource s.pieces).toList = Units.ofChars ("__p+='".toList ++ (s.first.flatMap literalChar
      ++ ('\'' :: charsOf (restLexemes s.rest) ++ ";\n".toList))) := by
  rw [statementsSource, Array.toList_append, foldl_source, Sheet.pieces, List.flatMap_cons, flatMap_source,
    source_literal, ← flatMap_joint]
  simp [Units.ofString_eq]

/-- The lexemes of the body are its text. -/
theorem bodySource_sheet (s : Sheet) :
    bodySource s.pieces = Units.ofString (String.ofList (charsOf (bodyLexemes s))) := by
  apply Array.ext'
  rw [bodySource, Array.toList_append, Array.toList_append, statementsSource_sheet]
  simp [Units.ofString_eq, bodyLexemes, headLexemes, tailLexemes, Lexeme.chars, Quotes.literal, Quotes.mark,
    Quotes.write]

/-! ## Tokens -/

/-- Tokens of words and punctuation on the line of the token before them. -/
abbrev nameTok (n : String) : Token × Bool := (.ident n false false, false)
abbrev markTok (p : String) : Token × Bool := (.punct p, false)
abbrev wordTok (k : String) : Token × Bool := (.keyword k, false)

/-- The variable of a tag, and the parenthesis behind it. -/
def NameTag.tokens (t : NameTag) (ts : Tokens) : Tokens :=
  (.ident t.name false false, t.before.contains '\n') :: (.punct ")", t.after.contains '\n') :: ts

/-- What a tag adds if its variable has a value. -/
def valueTokens (escapes : Bool) (ts : Tokens) : Tokens :=
  if escapes then
    nameTok "_" :: markTok "." :: nameTok "escape" :: markTok "(" :: nameTok "__t" :: markTok ")" :: ts
  else nameTok "__t" :: ts

/-- A tag between its parentheses. -/
def operandTokens (t : NameTag) (ts : Tokens) : Tokens :=
  (.punct "(", true) :: markTok "(" :: nameTok "__t" :: markTok "=" :: markTok "(" :: t.tokens
    (markTok ")" :: markTok "==" :: wordTok "null" :: markTok "?" :: (.string #[], false) :: markTok ":"
      :: valueTokens t.escapes (markTok ")" :: ts))

/-- All tags, each with the text after it. -/
def restTokens : List (NameTag × List Char) → Tokens → Tokens
  | [], ts => ts
  | (t, text) :: rest, ts => markTok "+" :: operandTokens t
    (markTok "+" :: (.string (Units.ofChars text).toArray, true) :: restTokens rest ts)

/-- The statement in the function `print`. -/
abbrev joinTokens (ts : Tokens) : Tokens :=
  nameTok "__p" :: markTok "+=" :: nameTok "__j" :: markTok "." :: nameTok "call" :: markTok "("
    :: nameTok "arguments" :: markTok "," :: (.string #[], false) :: markTok ")" :: markTok ";" :: ts

/-- The function `print`. -/
abbrev printTokens (ts : Tokens) : Tokens :=
  wordTok "function" :: markTok "(" :: markTok ")" :: markTok "\x7b" :: joinTokens (markTok "\x7d" :: ts)

/-- Their declarations, from each one on. -/
abbrev printDeclaration (ts : Tokens) : Tokens := nameTok "print" :: markTok "=" :: printTokens (markTok ";" :: ts)
abbrev joinDeclaration (ts : Tokens) : Tokens :=
  nameTok "__j" :: markTok "=" :: nameTok "Array" :: markTok "." :: nameTok "prototype" :: markTok "."
    :: nameTok "join" :: markTok "," :: printDeclaration ts
abbrev resultDeclaration (ts : Tokens) : Tokens :=
  nameTok "__p" :: markTok "=" :: (.string #[], false) :: markTok "," :: joinDeclaration ts

/-- The declarations. -/
def headTokens (ts : Tokens) : Tokens := (.keyword "var", true) :: nameTok "__t" :: markTok "," :: resultDeclaration ts

/-- The statement that adds the pieces to the result. -/
abbrev piecesTokens (s : Sheet) (ts : Tokens) : Tokens :=
  (.ident "__p" false false, true) :: markTok "+=" :: (.string (Units.ofChars s.first).toArray, false)
    :: restTokens s.rest (markTok ";" :: ts)

/-- The statement that it stands in. -/
def withTokens (s : Sheet) (ts : Tokens) : Tokens :=
  (.keyword "with", true) :: markTok "(" :: nameTok "obj" :: markTok "||" :: markTok "\x7b"
    :: markTok "\x7d" :: markTok ")" :: markTok "\x7b" :: piecesTokens s ((.punct "\x7d", true) :: ts)

/-- The body, and what follows on a new line. -/
def bodyTokens (s : Sheet) (ts : Tokens) : Tokens :=
  headTokens (withTokens s ((.keyword "return", true) :: nameTok "__p" :: markTok ";" :: ts))

theorem allFit_blanks (next : Option Char) {cs : List Char} (h : cs.all isBlank) :
    allFit next (cs.map blank) := by
  induction cs with
  | nil => rfl
  | cons c cs ih =>
    simp only [List.all_cons, Bool.and_eq_true] at h
    have hc (next : Option Char) : (blank c).fits next := by
      unfold blank
      split
      · rfl
      · next hline => simpa [isBlank, hline, Lexeme.fits] using h.1
    rw [List.map_cons, allFit, hc, ih h.2, Bool.and_self]

theorem endsWord_blank {c : Char} (h : isBlank c) : endsWord c := by
  simp only [isBlank, isGap, Bool.or_eq_true, beq_iff_eq] at h
  rcases h with (rfl | rfl) | rfl <;> decide

theorem tokensOf_blanks (cs : List Char) (t : Token) (nl : Bool) (ts : Tokens) :
    tokensOf (cs.map blank) ((t, nl) :: ts) = (t, nl || cs.contains '\n') :: ts := by
  induction cs with
  | nil => simp [tokensOf]
  | cons c cs ih =>
    have hcons : tokensOf ((c :: cs).map blank) ((t, nl) :: ts)
        = (blank c).tokens (tokensOf (cs.map blank) ((t, nl) :: ts)) := rfl
    rw [hcons, ih]
    unfold blank
    split
    · next h => simp [Lexeme.tokens, h]
    · next h => simp [Lexeme.tokens, Ne.symm h]

theorem NameTag.fits (t : NameTag) {next : Option Char} (h : next.all endsWord) :
    (Lexeme.ofWord t.name).fits next := by
  obtain ⟨c, w, hname, hsolid, hstart, hpart⟩ := t.isName.spelled
  rw [Lexeme.ofWord, hname]
  simp only [Lexeme.fits, hsolid, hstart, hpart, h, Bool.and_self]

theorem NameTag.allFit_lexemes (t : NameTag) {next : Option Char} (h : next.all endsWord) :
    allFit next t.lexemes := by
  have hafter : ((charsOf (t.after.map blank)).head?.or next).all endsWord := by
    rw [charsOf_blanks]
    cases hcs : t.after with
    | nil => simpa using h
    | cons c cs =>
      have hall := t.after_blank
      rw [hcs, List.all_cons, Bool.and_eq_true] at hall
      exact endsWord_blank hall.1
  rw [lexemes, allFit_append, allFit_blanks _ t.before_blank, allFit, t.fits hafter, allFit_blanks _ t.after_blank]
  rfl

theorem NameTag.tokensOf_lexemes (t : NameTag) (ts : Tokens) :
    tokensOf t.lexemes (markTok ")" :: ts) = t.tokens ts := by
  have hname : wordToken (String.ofList t.name.toList) = .ident t.name false false := by
    rw [String.ofList_toList, wordToken, if_neg (by simpa using t.isName.free)]
  have hword : tokensOf (.ofWord t.name :: t.after.map blank) (markTok ")" :: ts)
      = (.ident t.name false false, false) :: (.punct ")", t.after.contains '\n') :: ts := by
    rw [show tokensOf (.ofWord t.name :: t.after.map blank) (markTok ")" :: ts)
      = (wordToken (String.ofList t.name.toList), false)
        :: tokensOf (t.after.map blank) (markTok ")" :: ts) from rfl, hname, tokensOf_blanks, Bool.false_or]
  rw [lexemes, tokensOf_append, hword, tokensOf_blanks, Bool.false_or, tokens]

theorem allFit_tagLexemes (next : Option Char) (t : NameTag) (text : List Char) :
    allFit next (tagLexemes t text) := by
  unfold tagLexemes valueLexemes
  simp only [allFit_append, Bool.and_eq_true]
  refine ⟨?_, t.allFit_lexemes ?_, ?_, ?_, rfl⟩
  · rfl
  · rfl
  · cases t.escapes <;> rfl
  · cases t.escapes <;> rfl

theorem tokensOf_tagLexemes (t : NameTag) (text : List Char) (ts : Tokens) :
    tokensOf (tagLexemes t text) ts = markTok "+" :: operandTokens t
      (markTok "+" :: (.string (Units.ofChars text).toArray, true) :: ts) := by
  have hvalue (us : Tokens) : tokensOf (valueLexemes t.escapes) us = valueTokens t.escapes us := by
    unfold valueLexemes valueTokens
    cases t.escapes <;> rfl
  have hmiddle (us : Tokens) : tokensOf tagMiddle us = markTok ")" :: markTok ")" :: markTok "=="
      :: wordTok "null" :: markTok "?" :: (.string #[], false) :: markTok ":" :: us := rfl
  unfold tagLexemes
  simp only [tokensOf_append, hvalue, hmiddle, t.tokensOf_lexemes]
  rfl

/-- The tags are spelled before what follows them. -/
theorem spelled_rest (rest : List (NameTag × List Char)) {cs : List Char} {ts : Tokens} (h : Spelled cs ts) :
    Spelled (charsOf (restLexemes rest) ++ cs) (restTokens rest ts) := by
  unfold restLexemes
  induction rest with
  | nil => exact h
  | cons tag rest ih =>
    rw [List.flatMap_cons, charsOf_append, List.append_assoc, restTokens, ← tokensOf_tagLexemes]
    exact spelled_append (allFit_tagLexemes _ _ _) ih

/-- The body is spelled between a line end and a closing brace. -/
theorem spelled_body (s : Sheet) {cs : List Char} {nl : Bool} {ts : Tokens}
    (h : Spelled cs ((.punct "\x7d", nl) :: ts)) :
    Spelled ('\n' :: charsOf (bodyLexemes s) ++ cs) (bodyTokens s ((.punct "\x7d", true) :: ts)) := by
  have hend : allFit (some '\n') tailLexemes := by decide +kernel
  have hbegin : allFit (some '\'') (.line :: headLexemes) := by decide +kernel
  have htail := spelled_rest s.rest (spelled_before hend (.line h))
  have hfirst := @Spelled.literal .single s.first _ _ htail
  have hhead := spelled_before hbegin hfirst
  have htokens : bodyTokens s ((.punct "\x7d", true) :: ts) = tokensOf (.line :: headLexemes)
      ((.string (Units.ofChars s.first).toArray, false) :: restTokens s.rest (tokensOf tailLexemes
        ((.punct "\x7d", true) :: ts))) := rfl
  rw [htokens]
  simpa [bodyLexemes, Lexeme.chars, Quotes.literal, Quotes.mark] using hhead

/-! ## The text that is checked -/

/-- What stands before the body where it is checked. -/
def checkedHead : List Lexeme :=
  [.ofMark "(", .ofWord "function", .gap ' ', .ofWord "anonymous", .ofMark "(", .ofWord "obj", .ofMark ",", .ofWord "_",
    .line, .ofMark ")", .gap ' ', .ofMark "\x7b"]

/-- What stands behind it. -/
def checkedTail : List Lexeme := [.line, .ofMark "\x7d", .ofMark ")"]

/-- The function as a text that is checked. -/
def checkedChars (s : Sheet) : List Char :=
  charsOf checkedHead ++ ('\n' :: charsOf (bodyLexemes s) ++ charsOf checkedTail)

/-- The tokens of that text. -/
def checkedTokens (s : Sheet) : Tokens :=
  markTok "(" :: wordTok "function" :: nameTok "anonymous" :: markTok "(" :: nameTok "obj" :: markTok ","
    :: nameTok "_" :: (.punct ")", true) :: markTok "\x7b"
    :: bodyTokens s [(.punct "\x7d", true), markTok ")", (.eof, false)]

theorem spelled_checked (s : Sheet) : Spelled (checkedChars s) (checkedTokens s) := by
  have hend : allFit (List.head? []) checkedTail := by decide +kernel
  have htail : Spelled (charsOf checkedTail) [(.punct "\x7d", true), markTok ")", (.eof, false)] :=
    spelled_append hend .nothing
  have hbegin : allFit (some '\n') checkedHead := by decide +kernel
  exact spelled_before hbegin (spelled_body s htail)

end ScriptHost.Template
