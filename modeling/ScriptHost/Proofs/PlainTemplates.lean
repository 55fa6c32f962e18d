import ScriptHost.Proofs.VariableTemplates

/-!
# Templates without tags

A text in which the delimiters find no tag is a template of variables without any.  If string literals escape none of
its characters either, the body of its function holds it as it is.

* `isFunctionBody_plain` — such a body makes a function.
* `outcome?_plain` — such a text is compiled to the function that returns it.
* `outcome?_digit` — two texts like that.
-/

namespace ScriptHost.Template

open Text (Units)

/-- The body of a text without tags, quotes and line ends. -/
def plainBody (text : String) : String :=
  "var __t,__p='',__j=Array.prototype.join,"
    ++ "print=function()\x7b__p+=__j.call(arguments,'');\x7d;\nwith(obj||\x7b\x7d)\x7b\n"
    ++ "__p+='" ++ text ++ "';\n" ++ "\x7d\nreturn __p;\n"

/-- The function of such a text. -/
def plainFunction (text : String) : String := "function(obj)\x7b\n" ++ plainBody text ++ "\x7d"

/-- A text that stands in a string literal as it is. -/
def IsBare (text : String) : Prop := ∀ c ∈ text.toList, ProtoScript.literalChar c = [c]

theorem IsBare.quoteUnits {text : String} (h : IsBare text) : quoteUnits (Units.ofString text) = Units.ofString text := by
  have hchars (cs : List Char) (hcs : ∀ c ∈ cs, ProtoScript.literalChar c = [c]) :
      cs.flatMap ProtoScript.literalChar = cs := by
    induction cs with
    | nil => rfl
    | cons c cs ih =>
      rw [List.flatMap_cons, hcs c List.mem_cons_self, ih fun d hd => hcs d (List.mem_cons_of_mem _ hd)]
      rfl
  rw [Units.ofString_eq, quoteUnits_ofChars, hchars _ h]

theorem bodySource_plain {text : String} (h : IsBare text) :
    bodySource [.literal (Units.ofString text)] = Units.ofString (plainBody text) := by
  unfold bodySource statementsSource plainBody
  simp only [List.foldl_cons, List.foldl_nil, Piece.source, h.quoteUnits]
  simp only [Units.ofString_eq, String.toList_append, Units.ofChars_append, List.append_toArray, List.append_assoc]

/-- The body of such a text makes a function: it is that of a template of variables without any. -/
theorem isFunctionBody_plain {text : String} (h : IsBare text) : isFunctionBody (plainBody text).toList := by
  have hpieces : (⟨text.toList, []⟩ : Sheet).pieces = [.literal (Units.ofString text)] := by
    rw [Units.ofString_eq]
    rfl
  have hunits : Units.ofString (plainBody text) = Units.ofString (Sheet.body ⟨text.toList, []⟩) := by
    rw [← bodySource_plain h, ← hpieces, bodySource_sheet]
    rfl
  have hbody : plainBody text = Sheet.body ⟨text.toList, []⟩ := by
    simpa only [Units.toString_ofString] using congrArg Units.toString hunits
  exact hbody ▸ isFunctionBody_sheet _

/-- A text without tags and escaped characters is compiled to the function that returns it. -/
theorem outcome?_plain {text : String} (hscan : Scan (Units.ofString text) 0 []) (h : IsBare text) :
    outcome? .standard text = some (.ok (plainFunction text)) := by
  refine outcome?_of_body standard_matcher_eq rfl ?_ (isFunctionBody_plain h)
  have hpieces : cut (Units.ofString text) 0 [] = [.literal (Units.ofString text)] := by simp [cut, Units.slice]
  rw [hscan.pieces, hpieces, bodySource_plain h]

/-- Without the character that tags start with there are no tags. -/
theorem scan_of_not_mem {text : String} (h : '<' ∉ text.toList) : Scan (Units.ofString text) 0 [] := by
  refine .done fun l _ hstart => ?_
  obtain ⟨between, later, heq, -⟩ := exists_chars_of_shows [] text.toList rfl (Nat.zero_le l) (by decide) hstart.1
  exact h (heq ▸ by simp)

/-! ## Digits -/

theorem isBare_digit {text : String} (h : text ∈ ["1", "2"]) : IsBare text := by
  rw [List.mem_pair] at h
  rcases h with rfl | rfl
  · exact fun c hc => List.mem_singleton.mp hc ▸ rfl
  · exact fun c hc => List.mem_singleton.mp hc ▸ rfl

theorem outcome?_digit {text : String} (h : text ∈ ["1", "2"]) :
    outcome? .standard text = some (.ok (plainFunction text)) := by
  refine outcome?_plain (scan_of_not_mem ?_) (isBare_digit h)
  rw [List.mem_pair] at h
  rcases h with rfl | rfl <;> decide

end ScriptHost.Template
