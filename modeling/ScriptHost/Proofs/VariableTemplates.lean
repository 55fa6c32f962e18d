import ScriptHost.Proofs.Compiling
import ScriptHost.Proofs.Renderers
import ScriptHost.Proofs.StandardTags

/-!
# Templates whose tags are variables

The library takes the function of a template only if a program that consists of it makes this one function.  Where
every tag of a template holds a variable it does, whatever else stands in the template.

* `outcome?_of_body` — a template is compiled to the function of its body, if the body makes one.
* `isFunctionBody_sheet` — the body of a template of variables makes one.
* `exists_sheet` — tags cut a text between characters, so that the pieces are such a template.
* `outcome?_variables` — **a text whose tags are variables is compiled**.
-/

namespace ScriptHost.Template

open ProtoScript (Code)
open Text (Units)

/-! ## Bodies -/

/-- Whether a body makes a function, and nothing else. -/
def isFunctionBody (body : List Char) : Bool :=
  match ProtoScript.Program.parseChars ("(function anonymous(obj,_\n) \x7b\n".toList ++ body ++ "\n\x7d)".toList)
      { isGlobal := false, file := "<input>" } with
  | .ok codes => makesOneFunction codes
  | .error _ => false

theorem checkSource_eq_function {body : String} (h : isFunctionBody body.toList) :
    checkSource (Units.ofString body) = .function := by
  have htext : (ProtoScript.Script.functionText .normal "obj,_" body).toList
      = "(function anonymous(obj,_\n) \x7b\n".toList ++ body.toList ++ "\n\x7d)".toList := by
    unfold ProtoScript.Script.functionText
    simp only [String.toList_append]
    rfl
  unfold isFunctionBody at h
  unfold checkSource
  simp only [Units.toString_ofString, ProtoScript.Program.parse, htext]
  split at h
  · next codes hparse => simp only [hparse, h, if_true]
  · cases h

/-- A template is compiled to the function of its body, if the body makes one. -/
theorem outcome?_of_body {d : Delimiters} {r : Regex} {text body : String} (hr : d.matcher = .ok r)
    (hcount : r.groupCount = 4) (hbody : bodySource (pieces r (Units.ofString text)) = Units.ofString body)
    (h : isFunctionBody body.toList) :
    outcome? d text = some (.ok ("function(obj)\x7b\n" ++ body ++ "\x7d")) := by
  have hsource : functionSource (pieces r (Units.ofString text))
      = Units.ofString ("function(obj)\x7b\n" ++ body ++ "\x7d") := by
    unfold functionSource
    rw [hbody]
    simp only [Units.ofString_eq, String.toList_append, Units.ofChars_append, List.append_toArray]
  have hcompiled : compileText d text = .source (Units.ofString ("function(obj)\x7b\n" ++ body ++ "\x7d")) := by
    unfold compileText cutText
    simp only [hr, hcount, ne_eq, not_true, if_false, hbody, checkSource_eq_function h, hsource]
  unfold outcome?
  rw [hcompiled]
  simp only [ProtoScript.Script.exportUnits, Units.strayOffset?_ofString, Units.toString_ofString]
  rfl

/-! ## Templates of variables -/

/-- Whether a program makes one function does not depend on places in its text. -/
theorem makesOneFunction_bare (codes : Array Code) : makesOneFunction (codes.map Code.bare) = makesOneFunction codes := by
  unfold makesOneFunction
  rw [Array.back?_map]
  cases codes.back? <;> rfl

/-- The body of a template of variables. -/
def Sheet.body (s : Sheet) : String := String.ofList (ProtoScript.charsOf (bodyLexemes s))

/-- It makes a function. -/
theorem isFunctionBody_sheet (s : Sheet) : isFunctionBody s.body.toList := by
  obtain ⟨codes, hcodes, hbare⟩ := parse_checked s
  have htext : "(function anonymous(obj,_\n) \x7b\n".toList ++ s.body.toList ++ "\n\x7d)".toList = checkedChars s := by
    rw [Sheet.body, String.toList_ofList, checkedChars]
    simp [checkedHead, checkedTail, ProtoScript.Lexeme.chars]
  unfold isFunctionBody
  rw [htext]
  simp only [hcodes]
  rw [← makesOneFunction_bare, hbare]
  rfl

/-- A template that is cut into the pieces of variables is compiled. -/
theorem outcome?_sheet {d : Delimiters} {r : Regex} {text : String} {s : Sheet} (hr : d.matcher = .ok r)
    (hcount : r.groupCount = 4) (hpieces : pieces r (Units.ofString text) = s.pieces) :
    outcome? d text = some (.ok ("function(obj)\x7b\n" ++ s.body ++ "\x7d")) :=
  outcome?_of_body hr hcount (hpieces ▸ bodySource_sheet s) (isFunctionBody_sheet s)

/-! ## Tags between characters -/

/-- A tag of which the code is a variable. -/
def Tag.IsVariable (text : Units) (t : Tag) : Prop :=
  ∃ v : NameTag, t.kind = v.kind ∧ text.slice t.codeStart t.codeStop = (Units.ofChars v.code).toArray

/-- A part of a text lies between characters of it. -/
theorem slice_ofString {text : String} {before between after : List Char}
    (h : text.toList = before ++ (between ++ after)) {i j : Nat} (hi : (Units.ofChars before).length = i)
    (hj : (Units.ofChars (before ++ between)).length = j) :
    (Units.ofString text).slice i j = (Units.ofChars between).toArray := by
  subst hi hj
  apply Array.ext'
  simp [Units.slice, Units.ofString_eq, h]

/-- Where fixed text stands behind a character, characters end and begin. -/
theorem exists_chars_of_shows {text part : String} {i : Nat} (before after : List Char)
    (h : text.toList = before ++ after) (hi : (Units.ofChars before).length ≤ i) (hpart : part.toList ≠ [])
    (hshows : Shows (Units.ofString text) part i) :
    ∃ between later, after = between ++ (part.toList ++ later) ∧ (Units.ofChars (before ++ between)).length = i := by
  have hne : Units.ofChars part.toList ≠ [] := by
    obtain ⟨c, cs, hcs⟩ := List.exists_cons_of_ne_nil hpart
    have hpos := Units.ofChar_length_pos c
    rw [hcs, Units.ofChars_cons, ← List.length_pos_iff, List.length_append]
    omega
  have hsize := hshows.le_size hne
  obtain ⟨vs, hvs⟩ := hshows
  obtain ⟨c, cs, hcs⟩ := List.exists_cons_of_ne_nil hpart
  have hlength : (Units.ofString text).size = (Units.ofChars before).length + (Units.ofChars after).length := by
    rw [Units.ofString_eq, h, List.size_toArray, Units.ofChars_append, List.length_append]
  rw [Units.ofString_toList, h, Units.ofChars_append, List.drop_append, List.drop_eq_nil_of_le hi,
    List.nil_append] at hvs
  have hafter : Units.ofChars after = (Units.ofChars after).take (i - (Units.ofChars before).length)
      ++ (Units.ofChars (c :: cs) ++ vs) := by
    rw [← hcs, hvs, List.take_append_drop]
  obtain ⟨between, later, rfl, hbetween, -⟩ := Units.exists_chars hafter
  refine ⟨between, later, by rw [hcs], ?_⟩
  rw [Units.ofChars_append, List.length_append, hbetween, List.length_take]
  omega

theorem Stands.shows_stop {text : Units} {i : Nat} {t : Tag} (h : Stands text i t) : Shows text "%>" t.codeStop := by
  cases h with
  | escape _ hclose => exact hclose.shows
  | interpolate _ hclose => exact hclose.shows
  | evaluate _ _ hclose => exact hclose.shows

/-- Tags that are variables cut a text into the pieces of a template of variables. -/
theorem exists_sheet {text : String} {pos : Nat} {tags : List Tag} (before after : List Char)
    (h : Scan (Units.ofString text) pos tags) (hvariables : ∀ t ∈ tags, t.IsVariable (Units.ofString text))
    (htext : text.toList = before ++ after) (hpos : (Units.ofChars before).length = pos) :
    ∃ s : Sheet, s.pieces = cut (Units.ofString text) pos tags := by
  induction h generalizing before after with
  | @done pos hnone =>
    have hall : (Units.ofString text).slice pos (Units.ofString text).size = (Units.ofChars after).toArray := by
      have hnothing : text.toList = before ++ (after ++ []) := by rw [htext, List.append_nil]
      refine slice_ofString hnothing hpos ?_
      rw [← htext, Units.ofString_eq, List.size_toArray]
    refine ⟨⟨after, []⟩, ?_⟩
    rw [cut, hall]
    rfl
  | @tag pos i t rest hle hfirst hstands hrest ih =>
    obtain ⟨hcode, hstop, -⟩ := hstands.bounds
    obtain ⟨first, later, rfl, hi⟩ := exists_chars_of_shows before after htext (hpos.trans_le hle) (by decide) hstands.canStart.1
    have hliteral : (Units.ofString text).slice pos t.start = (Units.ofChars first).toArray :=
      slice_ofString htext hpos (hi.trans hstands.start_eq.symm)
    have hopened : (Units.ofChars (before ++ first ++ "<%".toList)).length = i + 2 := by
      rw [Units.ofChars_append, List.length_append, hi]
      rfl
    obtain ⟨code, rest', rfl, hcodeStop⟩ := exists_chars_of_shows (before ++ first ++ "<%".toList) later
      (by simpa using htext) (by omega) (by decide) hstands.shows_stop
    have hclosed : (Units.ofChars (before ++ first ++ "<%".toList ++ code ++ "%>".toList)).length = t.stop := by
      rw [Units.ofChars_append, List.length_append, hcodeStop]
      rfl
    obtain ⟨v, hkind, hslice⟩ := hvariables t (List.mem_cons_self ..)
    obtain ⟨s, hs⟩ := ih (before ++ first ++ "<%".toList ++ code ++ "%>".toList) rest'
      (fun t ht => hvariables t (List.mem_cons_of_mem _ ht)) (by simpa using htext) hclosed
    refine ⟨⟨first, (v, s.first) :: s.rest⟩, ?_⟩
    rw [cut, hliteral, hkind, hslice, ← hs]
    rfl

/-- **A template whose tags are variables is compiled**: the text is cut at its tags into the pieces of a template of
variables, and its function is the answer. -/
theorem outcome?_variables {text : String} {tags : List Tag} (h : Scan (Units.ofString text) 0 tags)
    (hvariables : ∀ t ∈ tags, t.IsVariable (Units.ofString text)) :
    ∃ s : Sheet, s.pieces = cut (Units.ofString text) 0 tags
      ∧ outcome? .standard text = some (.ok ("function(obj)\x7b\n" ++ s.body ++ "\x7d")) := by
  obtain ⟨s, hs⟩ := exists_sheet [] text.toList h hvariables rfl rfl
  exact ⟨s, hs, outcome?_sheet standard_matcher_eq rfl (h.pieces.trans hs.symm)⟩

end ScriptHost.Template
