import ScriptHost.Proofs.QuotedTexts
import ScriptHost.Proofs.Spelling
import ScriptHost.Proofs.Statements
import ScriptHost.ProtoScript.Builtin.Globals

/-!
# Statements that evaluate a text

The statement that gives a variable the value of a program holds the program as a string literal.  Here the
parser reads that statement, for every name and every program, and what it makes of it is known in full: the
code calls the function `eval`, by no name of its own, with exactly the text of the program.

* `assignmentTokens`, `assignmentCode` — the tokens and the code of the statement.
* `parse_assignment` — the statement is read as that code.
* `quoting_law` — **a quoted text is a literal with its text as value, and it is that text which the statement
  evaluates**.
-/

namespace ScriptHost.ProtoScript

open Parse
open Text (Units)

/-! ## The statement -/

/-- A text is a name that a variable can have. -/
structure IsName (name : String) : Prop where
  spelled : ∃ c w, name.toList = c :: w ∧ isSolid c ∧ Lexer.isIdentStart c ∧ w.all Lexer.isIdentPart
  free : name ∉ Lexer.keywords

/-- What stands between the name and the program. -/
def evaluationHead : List Lexeme :=
  [.gap ' ', .mark ['='], .gap ' ', .mark ['('], .zero, .mark [','], .gap ' ', .word ['e', 'v', 'a', 'l'],
    .mark [')'], .mark ['(']]

/-- What stands behind the program. -/
def evaluationTail : List Lexeme := [.mark [')'], .mark [';']]

/-- The tokens of the statement. -/
def assignmentTokens (name program : String) : Tokens :=
  [(.ident name false false, false), (.punct "=", false), (.punct "(", false), (.number zero, false),
    (.punct ",", false), (.ident "eval" false false, false), (.punct ")", false), (.punct "(", false),
    (.string (Units.ofString program), false), (.punct ")", false), (.punct ";", false), (.eof, false)]

theorem assignment_toList (name program : String) : (assignment name program).toList
    = name.toList ++ (charsOf evaluationHead ++ (Quotes.double.literal program.toList ++ charsOf evaluationTail)) := by
  simp [assignment, quote_toList, evaluationHead, evaluationTail, charsOf, Lexeme.chars, Quotes.literal,
    Quotes.mark, Quotes.write, String.toList_append]

theorem spelled_assignment {name : String} (h : IsName name) (program : String) :
    Spelled (assignment name program).toList (assignmentTokens name program) := by
  obtain ⟨c, w, hname, hsolid, hstart, hpart⟩ := h.spelled
  have hfree : Lexer.keywords.contains name = false := by simpa using h.free
  have htail : Spelled (charsOf evaluationTail ++ []) (tokensOf evaluationTail [(.eof, false)]) :=
    spelled_append (by decide +kernel) .nothing
  have hliteral : Spelled (Quotes.double.literal program.toList ++ (charsOf evaluationTail ++ [])) _ :=
    .literal htail
  have hquote : (Quotes.double.literal program.toList ++ (charsOf evaluationTail ++ [])).head? = some '"' := rfl
  have hfit : allFit (Quotes.double.literal program.toList ++ (charsOf evaluationTail ++ [])).head? evaluationHead := by
    rw [hquote]
    decide +kernel
  have hbegin := spelled_append hfit hliteral
  have hend : (some ' ').all endsWord := by decide +kernel
  have hword : Spelled (c :: w ++ (charsOf evaluationHead ++ (Quotes.double.literal program.toList
      ++ (charsOf evaluationTail ++ [])))) _ := .word hsolid hstart hpart hend hbegin
  have htoken : wordToken (String.ofList (c :: w)) = .ident name false false := by
    rw [← hname, String.ofList_toList, wordToken, hfree]
    rfl
  have htokens : assignmentTokens name program = (wordToken (String.ofList (c :: w)), false)
      :: tokensOf evaluationHead ((.string (Units.ofChars program.toList).toArray, false)
        :: tokensOf evaluationTail [(.eof, false)]) := by
    rw [htoken, ← Units.ofString_eq]
    rfl
  rw [assignment_toList, hname, htokens]
  simpa using hword

/-- Reading a name makes a function need `arguments` if that is the name. -/
def Writing.reading (w : Writing) (name : String) : Writing :=
  if name = "arguments" then Does.withArguments w else w

/-- The instructions of the statement. -/
abbrev assignmentInstrs (name : String) (program : Units) : List Instr :=
  [.checkVar name, .push (.num zero), .drop, .getVar "eval", .push (.str program), .call 1, .dup, .putVar name,
    .setCompletion]

/-- The code of the statement. -/
def assignmentCode (name program : String) : Code where
  name := "<eval>"
  form := .program
  usesArguments := name = "arguments"
  instrs := #[.checkVar name, .push (.num zero), .drop, .getVar "eval", .push (.str (Units.ofString program)),
    .call 1, .dup, .putVar name, .setCompletion, .getCompletion, .returnValue]

namespace Does

variable {d : Nat} {ts ts₁ : Tokens} {w w₁ : Writing} {t u : Token} {nl nl' : Bool}

/-- The arguments of the call, and what follows. -/
abbrev argumentTokens (program : Units) (ts : Tokens) : Tokens :=
  (.punct "(", false) :: (.string program, false) :: (.punct ")", false) :: (.punct ";", false) :: ts

/-- The call from the name of the function on. -/
abbrev calleeTokens (program : Units) (ts : Tokens) : Tokens :=
  (.ident "eval" false false, false) :: (.punct ")", false) :: argumentTokens program ts

/-- The call of `eval` by no name of its own. -/
theorem assign_evaluation (program : Units) (ts : Tokens) (w : Writing) :
    Does ((grammar (d + 4)).assign true)
      ((.punct "(", false) :: (.number zero, false) :: (.punct ",", false) :: calleeTokens program ts) w ()
      ((.punct ";", false) :: ts)
      (w.append [.push (.num zero), .drop, .getVar "eval", .push (.str program), .call 1] [] true) := by
  have hzero : Does ((grammar (d + 2)).assign true)
      ((.number zero, false) :: (.punct ",", false) :: calleeTokens program ts) w ()
      ((.punct ",", false) :: calleeTokens program ts) (w.append [.push (.num zero)] [] true) :=
    assign_constant rfl rfl rfl rfl (primary_number zero)
  have heval : Does ((grammar (d + 2)).assign true) (calleeTokens program ts)
      (w.append [.push (.num zero), .drop] [] true) () ((.punct ")", false) :: argumentTokens program ts)
      ((w.append [.push (.num zero), .drop] [] true).append [.getVar "eval"] [] true) :=
    assign_variable (by decide) rfl rfl
  have hgroup : Does (primary (grammar (d + 3)))
      ((.punct "(", false) :: (.number zero, false) :: (.punct ",", false) :: calleeTokens program ts) w
      (.plain, false) (argumentTokens program ts)
      (w.append [.push (.num zero), .drop, .getVar "eval"] [] true).settle :=
    primary_group (expression_pair hzero (by simpa using heval) rfl)
  have hstring (w : Writing) : Does ((grammar (d + 3)).assign true)
      ((.string program, false) :: (.punct ")", false) :: (.punct ";", false) :: ts) w ()
      ((.punct ")", false) :: (.punct ";", false) :: ts) (w.append [.push (.str program)] [] true) :=
    assign_constant rfl rfl rfl rfl (primary_string program)
  have hmember : Does (memberExpression (grammar (d + 3)) true)
      ((.punct "(", false) :: (.number zero, false) :: (.punct ",", false) :: calleeTokens program ts) w ()
      ((.punct ";", false) :: ts)
      (w.append [.push (.num zero), .drop, .getVar "eval", .push (.str program), .call 1] [] true) := by
    refine member hgroup fun fuel column hfuel => ?_
    obtain ⟨fuel, rfl⟩ : ∃ n, fuel = n + 1 := ⟨fuel - 1, by simp at hfuel; omega⟩
    have hargument {bound : Nat} (h : 2 ≤ bound) (w : Writing) : Does (plainArguments (grammar (d + 3)) bound 0)
        ((.string program, false) :: (.punct ")", false) :: (.punct ";", false) :: ts) w (1, false)
        ((.punct ")", false) :: (.punct ";", false) :: ts) (w.append [.push (.str program)] [] true) := by
      obtain ⟨bound, rfl⟩ : ∃ n, bound = n + 1 := ⟨bound - 1, by omega⟩
      exact plainArguments_last rfl rfl (hstring w)
    have hnone (w : Writing) : Does (accesses (grammar (d + 3)) true fuel .plain true none column)
        ((.punct ";", false) :: ts) w none ((.punct ";", false) :: ts) w := accesses_none _ _ rfl
    refine accesses_call rfl (fun h => hargument h _) ?_
    simpa using hnone _
  exact assignment_other (atArrow_group rfl rfl) rfl rfl (operand rfl rfl hmember) (assignmentTail_none rfl)

theorem primary_name {g : Grammar} {name : String} (hallowed : w.fn.argumentsAllowed)
    (hu : u.isWord "function" = false) :
    Does (primary g) ((.ident name false false, nl) :: (u, nl') :: ts) w (.plain, false) ((u, nl') :: ts)
      ((w.reading name).append [.getVar name] [] true) := by
  by_cases hname : name = "arguments"
  · subst hname
    exact primary_arguments hallowed hu
  · rw [Writing.reading, if_neg hname]
    exact primary_ident hname hu

theorem statement_assignment {name program : String} {mask : DeclMask} (heval : w.fn.isEval)
    (hallowed : w.fn.argumentsAllowed) :
    Does ((grammar (d + 7)).statement mask) (assignmentTokens name program) w () [(.eof, false)]
      ((w.reading name).append (assignmentInstrs name (Units.ofString program)) [] true) := by
  have hvalue : Does ((grammar (d + 4)).assign true)
      ((.punct "(", false) :: (.number zero, false) :: (.punct ",", false)
        :: calleeTokens (Units.ofString program) [(.eof, false)])
      ((w.reading name).append [.checkVar name] [] true) () [(.punct ";", false), (.eof, false)]
      (((w.reading name).append [.checkVar name, .push (.num zero), .drop, .getVar "eval",
        .push (.str (Units.ofString program))] [] true).append [.call 1] [] true) := by
    rw [Writing.append_append]
    have hcall := assign_evaluation (d := d) (Units.ofString program) [(.eof, false)]
      ((w.reading name).append [.checkVar name] [] true)
    rw [Writing.append_append] at hcall
    exact hcall
  have hexpression : Does ((grammar (d + 6)).expression true) (assignmentTokens name program) w ()
      [(.punct ";", false), (.eof, false)] ((w.reading name).append [.checkVar name, .push (.num zero), .drop,
        .getVar "eval", .push (.str (Units.ofString program)), .call 1, .dup, .putVar name] [] true) := by
    refine expression (g := grammar (d + 5)) (assignment_name rfl
      (operand rfl rfl (member_primary (primary_name hallowed rfl) rfl)) ?_) rfl
    simpa using assignmentTail_assign rfl hvalue
  have hkept : ((w.reading name).append [.checkVar name, .push (.num zero), .drop, .getVar "eval",
      .push (.str (Units.ofString program)), .call 1, .dup, .putVar name] [] true).fn.isEval := by
    unfold Writing.reading
    split <;> exact heval
  have hstatement := expressionStatement hexpression expectSemi
  rw [hkept, if_pos rfl, Writing.append_append] at hstatement
  exact statement_name rfl rfl rfl hstatement

end Does

theorem closeBody_assignment (name program : String) :
    closeBody (((Writing.reading (.program {}) name).append (assignmentInstrs name (Units.ofString program)) []
      true).append [.getCompletion, .returnValue] [] true).fn = assignmentCode name program := by
  unfold Writing.reading
  by_cases hname : name = "arguments"
  · subst hname
    rfl
  · rw [if_neg hname]
    simp [closeBody, assignmentCode, hname]
    rfl

/-- The statement is read as its code. -/
theorem parse_assignment {name : String} (h : IsName name) (program : String) :
    ∃ code, Program.parse (assignment name program) {} = .ok #[code] ∧ code.bare = assignmentCode name program := by
  have hstart : (assignment name program).toList.head? ≠ some '#' := by
    obtain ⟨c, w, hname, -, hc, -⟩ := h.spelled
    rw [assignment_toList, hname]
    rintro heq
    cases heq
    exact absurd hc (by decide +kernel)
  have hspelled := spelled_assignment h program
  have hstep (d : Nat) : Does (programStep (grammar (d + 7))) (assignmentTokens name program)
      (.program {}) true [(.eof, false)]
      ((Writing.reading (.program {}) name).append (assignmentInstrs name (Units.ofString program)) [] true) :=
    Does.isEof.bind ((Does.statement_assignment rfl rfl).bind (Does.pure _ _ _))
  have hlast (d : Nat) (w : Writing) : Does (programStep (grammar (d + 7))) [(.eof, false)] w false [(.eof, false)] w :=
    Does.isEof.bind (Does.pure _ _ _)
  obtain ⟨codes, hcodes, hbare⟩ := parseChars_eq hstart rfl hspelled (fun v => Token.noConfusion)
    (.more (hstep _) (.last (hlast _ _))) (by simp)
  have hnone : ((Writing.reading (.program {}) name).append
      (assignmentInstrs name (Units.ofString program)) [] true).codes = #[] := by
    unfold Writing.reading
    split <;> rfl
  rw [closeBody_assignment, hnone] at hbare
  obtain ⟨code, rfl⟩ := Array.size_eq_one_iff.mp (show codes.size = 1 by simpa using congrArg Array.size hbare)
  exact ⟨code, hcodes, by simpa using hbare⟩

/-! ## The law -/

/-- The function that is called by the name `eval`, if there is one. -/
def evalFunction? : Option Native :=
  (Builtin.Globals.globalMembers.find? fun m => m.key = .name "eval").map fun m => m.native

theorem evalFunction?_eq : evalFunction?
    = some ⟨"eval", 1, fun this args _ => Builtin.Globals.globalMembers.evalIndirect this args⟩ := by
  simp [evalFunction?, Builtin.Globals.globalMembers, Member.method, Builtin.Numbers.parseIntMember,
    Builtin.Numbers.parseFloatMember]

/-- There is such a function, and it evaluates the text that it is called with. -/
theorem evalFunction?_evaluates (program : String) :
    ∃ eval, evalFunction? = some eval ∧ ∀ this target calls,
      eval.run this #[.str (Units.ofString program)] target calls = calls.evaluate program := by
  refine ⟨_, evalFunction?_eq, fun this target calls => ?_⟩
  show calls.evaluate (Units.ofString program).toString = _
  rw [Units.toString_ofString]

theorem not_isNewline_of_isPrinted {c : Char} (h : isPrinted c) : Lexer.isNewline c = false := by
  simp only [isPrinted, Bool.and_eq_true, bne_iff_ne, decide_eq_true_eq] at h
  have hne (d : Char) (hd : d.toNat < 0x20) : c ≠ d := by
    rintro rfl
    omega
  simp [Lexer.isNewline, hne '\n' (by decide), hne '\r' (by decide), h.1.2, h.2]

/-- The statement stands on one line if its name does. -/
theorem not_isNewline_of_mem_assignment {name program : String} (h : ∀ c ∈ name.toList, Lexer.isNewline c = false)
    {c : Char} (hc : c ∈ (assignment name program).toList) : Lexer.isNewline c = false := by
  have hparts : (assignment name program).toList
      = name.toList ++ " = (0, eval)(".toList ++ (quote program).toList ++ ");".toList := by
    simp [assignment, String.toList_append]
  rw [hparts] at hc
  simp only [List.mem_append, or_assoc] at hc
  have hconstant (text : String) (htext : text.toList.all fun c => !Lexer.isNewline c) (hc : c ∈ text.toList) :
      Lexer.isNewline c = false := by
    simpa using List.all_eq_true.mp htext c hc
  rcases hc with hc | hc | hc | hc
  · exact h c hc
  · exact hconstant _ (by decide) hc
  · exact not_isNewline_of_isPrinted (isPrinted_of_mem_quote hc)
  · exact hconstant _ (by decide) hc

/-- **Quoting is exact.**  A quoted text is one literal whose value is the text, without control characters
and line separators, and whatever follows it, no other literal begins where it begins.  The statement that
evaluates a text stands on one line, and the parser makes of it the code that calls `eval` with that text. -/
theorem quoting_law (name program : String) :
    (IsLiteral (Units.ofChars (quote program).toList) (Units.ofChars program.toList)
        ∧ (∀ c ∈ (quote program).toList, isPrinted c)
        ∧ ∀ text value rest rest', Units.ofChars (quote program).toList ++ rest = text ++ rest' →
          IsLiteral text value →
          text = Units.ofChars (quote program).toList ∧ value = Units.ofChars program.toList)
      ∧ ((∀ c ∈ name.toList, Lexer.isNewline c = false) →
          ∀ c ∈ (assignment name program).toList, Lexer.isNewline c = false)
      ∧ (IsName name → ∃ code, Program.parse (assignment name program) {} = .ok #[code]
          ∧ code.bare = assignmentCode name program)
      ∧ ∃ eval, evalFunction? = some eval ∧ ∀ this target calls,
          eval.run this #[.str (Units.ofString program)] target calls = calls.evaluate program := by
  refine ⟨⟨isLiteral_quote program, fun c hc => isPrinted_of_mem_quote hc, ?_⟩,
    fun hname c hc => not_isNewline_of_mem_assignment hname hc, fun hname => parse_assignment hname program,
    evalFunction?_evaluates program⟩
  intro text value rest rest' heq htext
  obtain ⟨hsame, hvalue⟩ := (isLiteral_quote program).unique htext heq
  exact ⟨hsame.symm, hvalue.symm⟩

/-- A text that tries to close its literal and to go on in a new line is only a text. -/
theorem quoting_law_breakout :
    (quote "\"); x(\"\n0").toList = ['"', '\\', '"', ')', ';', ' ', 'x', '(', '\\', '"', '\\', 'n', '0', '"']
      ∧ (∀ c ∈ (assignment "x" "\"); x(\"\n0").toList, Lexer.isNewline c = false)
      ∧ ∃ code, Program.parse (assignment "x" "\"); x(\"\n0") {} = .ok #[code]
          ∧ code.bare = assignmentCode "x" "\"); x(\"\n0" := by
  obtain ⟨-, hline, hparse, -⟩ := quoting_law "x" "\"); x(\"\n0"
  have hname : IsName "x" := ⟨⟨'x', [], rfl, by decide +kernel, by decide +kernel, rfl⟩, by decide +kernel⟩
  have hshort : ∀ c ∈ "x".toList, Lexer.isNewline c = false := by
    intro c hc
    obtain rfl : c = 'x' := by simpa using hc
    rfl
  exact ⟨by decide +kernel, hline hshort, hparse hname⟩

end ScriptHost.ProtoScript
