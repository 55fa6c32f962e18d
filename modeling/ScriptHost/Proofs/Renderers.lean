import ScriptHost.Proofs.VariableTags

/-!
# The code of generated functions

What the parser writes for the function that is generated for a template of variables.  Each tag is one operand of a
sum, whatever its variable and wherever its lines end.

* `tagInstrs`, `sumInstrs`, `renderCode` — the instructions of a tag and of the pieces, and the code of the function.
* `Does.operand_tag`, `Does.rounds_sum` — a tag is read as an operand, and the pieces as a sum.
* `Does.statement_head`, `Does.statement_with`, `Does.statement_return` — the statements of the body.
* `parse_checked` — **the text that is checked is parsed to that code**.
-/

namespace ScriptHost.Template

open ProtoScript ProtoScript.Parse
open Text (Units)

/-! ## Instructions -/

/-- What a tag adds if its variable has a value. -/
def valueInstrs (escapes : Bool) : List Instr :=
  if escapes then [.getVar "_", .getFieldKeep "escape", .getVar "__t", .callMethod 1] else [.getVar "__t"]

/-- A tag, given its first label. -/
def tagInstrs (label : Nat) (t : NameTag) : List Instr :=
  .checkVar "__t" :: .getVar t.name :: .dup :: .putVar "__t" :: .push .null :: .binary .eq
    :: .jumpFalse label :: .push (.str #[]) :: .jump (label + 1) :: valueInstrs t.escapes

/-- The places of the labels of a tag, given that of its first instruction. -/
def tagLabels (place : Nat) (t : NameTag) : List Nat :=
  [place + 9, place + (9 + (valueInstrs t.escapes).length)]

/-- The terms of a sum behind the first one. -/
def sumInstrs (label : Nat) : List (NameTag × List Char) → List Instr
  | [] => []
  | (t, text) :: rest => tagInstrs label t ++ .binary .add :: .push (.str (Units.ofChars text).toArray)
    :: .binary .add :: sumInstrs (label + 2) rest

/-- The places of the labels in these terms. -/
def sumLabels (place : Nat) : List (NameTag × List Char) → List Nat
  | [] => []
  | (t, _) :: rest => tagLabels place t ++ sumLabels (place + ((tagInstrs 0 t).length + 3)) rest

/-- The pieces are added to the result, given their first label. -/
def appendInstrs (label : Nat) (s : Sheet) : List Instr :=
  .checkVar "__p" :: .getVar "__p" :: .push (.str (Units.ofChars s.first).toArray)
    :: (sumInstrs label s.rest ++ [.binary .add, .dup, .putVar "__p"])

/-- The statement around it, given its first label. -/
def withInstrs (label : Nat) (s : Sheet) : List Instr :=
  .getVar "obj" :: .dup :: .jumpTrue label :: .drop :: .newObject :: .requireObject :: .enterWith :: .nop
    :: (appendInstrs (label + 1) s ++ [.drop, .nop, .leaveScope])

/-- The places of its labels, given that of its first instruction. -/
def withLabels (place : Nat) (s : Sheet) : List Nat :=
  (place + 5) :: sumLabels (place + 11) s.rest

/-- The code of the function `print` of a template, before it has a name. -/
def printCode (file : String) : Code where
  file := file
  usesArguments := true
  instrs := #[.checkVar "__p", .getVar "__p", .getVar "__j", .getFieldKeep "call", .getVar "arguments",
    .push (.str #[]), .callMethod 2, .binary .add, .dup, .putVar "__p", .drop, .push .undefined, .returnValue]

/-- The declarations, given the number of `print`. -/
def headInstrs (print : Nat) : List Instr :=
  [.checkVar "__p", .push (.str #[]), .putVar "__p", .checkVar "__j", .getVar "Array", .getField "prototype",
    .getField "join", .putVar "__j", .checkVar "print", .closure print, .setName "print", .putVar "print"]

/-- The body of a function, given the number of `print`. -/
def bodyInstrs (print : Nat) (s : Sheet) : List Instr :=
  headInstrs print ++ (withInstrs 0 s ++ [.getVar "__p", .returnValue])

/-- The code of a function in the text that is checked, given the number of `print`. -/
def renderCode (file : String) (print : Nat) (s : Sheet) : Code where
  name := "anonymous"
  selfName := some "anonymous"
  params := [some "obj", some "_"]
  length := 2
  vars := ["__t", "__p", "__j", "print"]
  instrs := (bodyInstrs print s).toArray
  labels := (withLabels 12 s).toArray
  file

/-- The code of the text that is checked. -/
def checkedCode : Code where
  name := "<eval>"
  form := .evalProgram
  instrs := #[.closure 1, .setCompletion, .getCompletion, .returnValue]
  file := "<input>"

@[simp] theorem length_headInstrs (print : Nat) : (headInstrs print).length = 12 := rfl

theorem length_tagInstrs (label : Nat) (t : NameTag) :
    (tagInstrs label t).length = 9 + (valueInstrs t.escapes).length := by
  simp [tagInstrs]
  omega

theorem length_tagLabels (place : Nat) (t : NameTag) : (tagLabels place t).length = 2 := rfl

end ScriptHost.Template

namespace ScriptHost.ProtoScript.Does

open Template Parse
open Text (Units)

variable {d : Nat} {ts ts₁ : Tokens} {w w₁ : Writing} {u : Token} {nl nl' nl₁ nl₂ : Bool} {t : NameTag}

/-! ## Tags -/

/-- A variable in parentheses. -/
theorem assign_group {n : String} (hn : n ≠ "arguments") :
    Does ((grammar (d + 3)).assign true)
      ((.punct "(", nl) :: (.ident n false false, nl₁) :: (.punct ")", nl₂) :: markTok ")" :: ts) w ()
      (markTok ")" :: ts) (w.append [.getVar n] [] true) := by
  have hgroup : Does (primary (grammar (d + 2)))
      ((.punct "(", nl) :: (.ident n false false, nl₁) :: (.punct ")", nl₂) :: markTok ")" :: ts) w (.plain, false)
      (markTok ")" :: ts) (w.append [.getVar n] [] true) :=
    primary_group (expression (assign_variable hn rfl rfl) rfl)
  exact assignment_other (atArrow_group rfl rfl) rfl rfl (operand rfl rfl (member_primary hgroup rfl))
    (assignmentTail_none rfl)

/-- The variable of a tag becomes the value of `__t`. -/
theorem assign_code (t : NameTag) :
    Does ((grammar (d + 4)).assign true)
      (nameTok "__t" :: markTok "=" :: markTok "(" :: t.tokens (markTok ")" :: ts)) w ()
      (markTok ")" :: ts) (w.append [.checkVar "__t", .getVar t.name, .dup, .putVar "__t"] [] true) := by
  have hvalue : Does ((grammar (d + 3)).assign true) (markTok "(" :: t.tokens (markTok ")" :: ts))
      (w.append [.checkVar "__t"] [] true) () (markTok ")" :: ts)
      ((w.append [.checkVar "__t"] [] true).append [.getVar t.name] [] true) := assign_group t.ne_arguments
  refine assignment_name rfl (operand rfl rfl (member_variable (by decide) rfl)) ?_
  simpa using assignmentTail_assign rfl hvalue

/-- The variable of a tag is compared with `null`. -/
theorem comparison (t : NameTag) :
    Does (coalesceExpression (grammar (d + 5)) true)
      (markTok "(" :: nameTok "__t" :: markTok "=" :: markTok "(" :: t.tokens
        (markTok ")" :: markTok "==" :: wordTok "null" :: markTok "?" :: ts)) w () (markTok "?" :: ts)
      (w.append [.checkVar "__t", .getVar t.name, .dup, .putVar "__t", .push .null, .binary .eq] [] true) := by
  have hcode : Does (binaryExpression (grammar (d + 5)) true 0)
      (markTok "(" :: nameTok "__t" :: markTok "=" :: markTok "(" :: t.tokens
        (markTok ")" :: markTok "==" :: wordTok "null" :: markTok "?" :: ts)) w ()
      (markTok "==" :: wordTok "null" :: markTok "?" :: ts)
      (w.append [.checkVar "__t", .getVar t.name, .dup, .putVar "__t"] [] true) :=
    unary (member_primary (primary_group (expression (assign_code t) rfl)) rfl) rfl rfl
  have hnull (w) : Does (binaryExpression (grammar (d + 5)) true 4) (wordTok "null" :: markTok "?" :: ts) w ()
      (markTok "?" :: ts) (w.append [.push .null] [] true) :=
    binary_upTo (Nat.zero_le 4) rfl (fun level _ hle => by interval_cases level <;> rfl)
      (unary (member_primary primary_null rfl) rfl rfl)
  have hvalue := binary_upTo (Nat.zero_le 4) rfl (fun level _ hle => by interval_cases level <;> rfl) hcode
  have hequal : Does (binaryExpression (grammar (d + 5)) true 5)
      (markTok "(" :: nameTok "__t" :: markTok "=" :: markTok "(" :: t.tokens
        (markTok ")" :: markTok "==" :: wordTok "null" :: markTok "?" :: ts)) w () (markTok "?" :: ts)
      (w.append [.checkVar "__t", .getVar t.name, .dup, .putVar "__t", .push .null, .binary .eq] [] true) := by
    refine binary_chain rfl hvalue (.more (binaryRound_operand rfl (hnull _)) ?_) (n := 1) (by simp)
    simpa using Rounds.last (binaryRound_none rfl)
  exact coalesce (binary_upTo (by omega) rfl (fun level _ hle => by interval_cases level <;> rfl) hequal) rfl rfl rfl

/-- What a tag adds if its variable has a value. -/
theorem assign_value (escapes : Bool) :
    Does ((grammar (d + 3)).assign true) (valueTokens escapes (markTok ")" :: ts)) w () (markTok ")" :: ts)
      (w.append (valueInstrs escapes) [] true) := by
  cases escapes with
  | false => exact assign_variable (by decide) rfl rfl
  | true =>
    refine assignment_name rfl (operand rfl rfl (member (primary_ident (by decide) rfl) ?_)) (assignmentTail_none rfl)
    intro fuel column hfuel
    obtain ⟨fuel, rfl⟩ : ∃ n, fuel = n + 2 := ⟨fuel - 2, by simp at hfuel; omega⟩
    refine accesses_field rfl fun column => ?_
    have hargs {bound : Nat} (h : 2 ≤ bound) : Does (plainArguments (grammar (d + 2)) bound 0)
        (nameTok "__t" :: markTok ")" :: markTok ")" :: ts)
        (w.append [.getVar "_", .getFieldKeep "escape"] [] true) (1, false) (markTok ")" :: markTok ")" :: ts)
        ((w.append [.getVar "_", .getFieldKeep "escape"] [] true).append [.getVar "__t"] [] true) := by
      obtain ⟨bound, rfl⟩ : ∃ n, bound = n + 1 := ⟨bound - 1, by omega⟩
      exact plainArguments_last rfl rfl (assign_variable (by decide) rfl rfl)
    refine accesses_method hargs ?_
    simpa [valueInstrs] using accesses_none fuel column rfl

/-- A tag between its parentheses, before an operator. -/
theorem operand_tag (t : NameTag) (hu : u.parts) :
    Does (binaryExpression (grammar (d + 7)) true 0) (operandTokens t ((u, nl) :: ts)) w () ((u, nl) :: ts)
      (w.append (tagInstrs w.fn.code.labels.size t) (tagLabels w.fn.code.instrs.size t) false) := by
  have hassign : Does ((grammar (d + 6)).assign true)
      (markTok "(" :: nameTok "__t" :: markTok "=" :: markTok "(" :: t.tokens
        (markTok ")" :: markTok "==" :: wordTok "null" :: markTok "?" :: (.string #[], false) :: markTok ":"
          :: valueTokens t.escapes (markTok ")" :: (u, nl) :: ts))) w ()
      (markTok ")" :: (u, nl) :: ts)
      (w.append (tagInstrs w.fn.code.labels.size t) (tagLabels w.fn.code.instrs.size t) false) := by
    refine assignment_other (atArrow_group rfl rfl) rfl rfl ?_ (assignmentTail_none rfl)
    have hempty (w') : Does ((grammar (d + 5)).assign true)
        ((.string #[], false) :: markTok ":" :: valueTokens t.escapes (markTok ")" :: (u, nl) :: ts)) w' ()
        (markTok ":" :: valueTokens t.escapes (markTok ")" :: (u, nl) :: ts)) (w'.append [.push (.str #[])] [] true) :=
      assign_constant rfl rfl rfl rfl (primary_string _)
    obtain ⟨v, vs, hv⟩ : ∃ v vs, valueTokens t.escapes (markTok ")" :: (u, nl) :: ts) = (v, false) :: vs := by
      unfold valueTokens
      cases t.escapes <;> exact ⟨_, _, rfl⟩
    have hvalue (w') : Does ((grammar (d + 5)).assign true) ((v, false) :: vs) w' () (markTok ")" :: (u, nl) :: ts)
        (w'.append (valueInstrs t.escapes) [] true) := hv ▸ assign_value t.escapes
    rw [hv] at hempty ⊢
    have hchoice := conditional_choice (comparison (w := w) t) hempty hvalue
    have hlabels (place : Nat) : tagLabels place t
        = [place + (6 + (1 + 2)), place + (6 + (1 + ((valueInstrs t.escapes).length + 2)))] := by
      rw [tagLabels, show 9 + (valueInstrs t.escapes).length = 6 + (1 + ((valueInstrs t.escapes).length + 2)) by omega]
    rw [hlabels]
    exact hchoice
  exact unary (member_primary (primary_group (expression hassign rfl)) hu) rfl hu

/-- Behind a text there is another term, or the end of the statement. -/
theorem restTokens_cons (rest : List (NameTag × List Char)) (ts : Tokens) :
    ∃ u us, restTokens rest (markTok ";" :: ts) = (u, false) :: us ∧ u.parts ∧ operatorAt 1 true u = none := by
  cases rest with
  | nil => exact ⟨_, _, rfl, rfl, rfl⟩
  | cons tag rest => exact ⟨_, _, rfl, rfl, rfl⟩

/-- A tag and the text after it are two more terms of a sum. -/
theorem rounds_sum (rest : List (NameTag × List Char)) (is : List Instr) (ls : List Nat) (ts : Tokens)
    (w : Writing) :
    Rounds (binaryRound true 2 (binaryExpression (grammar (d + 7)) true 1)) (2 * rest.length)
      (restTokens rest (markTok ";" :: ts)) (w.append is ls true) (markTok ";" :: ts)
      (w.append (is ++ sumInstrs (w.fn.code.labels.size + ls.length) rest)
        (ls ++ sumLabels (w.fn.code.instrs.size + is.length) rest) true) := by
  induction rest generalizing is ls with
  | nil =>
    rw [sumInstrs, sumLabels, List.append_nil, List.append_nil]
    exact .last (binaryRound_none rfl)
  | cons tag rest ih =>
    obtain ⟨t, text⟩ := tag
    obtain ⟨u, us, hus, hu, hlevel⟩ := restTokens_cons rest ts
    have htag (w : Writing) : Does (binaryExpression (grammar (d + 7)) true 1)
        (operandTokens t (markTok "+" :: (.string (Units.ofChars text).toArray, true) :: (u, false) :: us)) w ()
        (markTok "+" :: (.string (Units.ofChars text).toArray, true) :: (u, false) :: us)
        (w.append (tagInstrs w.fn.code.labels.size t) (tagLabels w.fn.code.instrs.size t) false) :=
      binary_upTo (Nat.zero_le 1) rfl (fun level _ hle => by interval_cases level; rfl) (operand_tag t rfl)
    have htext (w : Writing) : Does (binaryExpression (grammar (d + 7)) true 1)
        ((.string (Units.ofChars text).toArray, true) :: (u, false) :: us) w () ((u, false) :: us)
        (w.append [.push (.str (Units.ofChars text).toArray)] [] true) :=
      binary_upTo (Nat.zero_le 1) rfl (fun level _ hle => by interval_cases level; exact hlevel)
        (unary (member_primary (primary_string _) hu) rfl hu)
    rw [restTokens, hus]
    rw [hus] at ih
    refine .more (binaryRound_operand rfl (htag _)) (.more (binaryRound_operand rfl (htext _)) ?_)
    have hrest := ih
      (is ++ (tagInstrs (w.fn.code.labels.size + ls.length) t
        ++ [.binary .add, .push (.str (Units.ofChars text).toArray), .binary .add]))
      (ls ++ tagLabels (w.fn.code.instrs.size + is.length) t)
    simpa [sumInstrs, sumLabels, length_tagInstrs, length_tagLabels, Nat.add_assoc] using hrest

theorem length_restTokens (rest : List (NameTag × List Char)) (t : Token × Bool) (ts : Tokens) :
    2 * rest.length < (restTokens rest (t :: ts)).length := by
  induction rest with
  | nil => simp [restTokens]
  | cons tag rest ih =>
    obtain ⟨tag, text⟩ := tag
    have hlonger (t : NameTag) (ts : Tokens) : ts.length ≤ (operandTokens t ts).length := by
      unfold operandTokens NameTag.tokens valueTokens
      cases t.escapes <;> simp <;> omega
    have htag := hlonger tag (markTok "+" :: (.string (Units.ofChars text).toArray, true) :: restTokens rest (t :: ts))
    simp only [restTokens, List.length_cons] at htag ⊢
    omega

/-! ## Statements -/

/-- The pieces are added to the result. -/
theorem assign_pieces (s : Sheet) :
    Does ((grammar (d + 9)).assign true) (piecesTokens s ts) w () (markTok ";" :: ts)
      (w.append (appendInstrs w.fn.code.labels.size s) (sumLabels (w.fn.code.instrs.size + 3) s.rest) true) := by
  obtain ⟨v, vs, hv, hparts, hlevel⟩ := restTokens_cons s.rest ts
  have hfirst (w : Writing) : Does (binaryExpression (grammar (d + 7)) true 1)
      ((.string (Units.ofChars s.first).toArray, false) :: (v, false) :: vs) w () ((v, false) :: vs)
      (w.append [.push (.str (Units.ofChars s.first).toArray)] [] true) :=
    binary_upTo (Nat.zero_le 1) rfl (fun level _ hle => by interval_cases level; exact hlevel)
      (unary (member_primary (primary_string _) hparts) rfl hparts)
  have hrounds := @rounds_sum d s.rest
    [.checkVar "__p", .getVar "__p", .push (.str (Units.ofChars s.first).toArray)] [] ts w
  have hshort := length_restTokens s.rest (markTok ";") ts
  rw [hv] at hrounds hshort
  have hsum := binary_chain rfl (hfirst (w.append [.checkVar "__p", .getVar "__p"] [] true))
    (by simpa using hrounds) hshort
  have hvalue : Does ((grammar (d + 8)).assign true)
      ((.string (Units.ofChars s.first).toArray, false) :: (v, false) :: vs)
      (w.append [.checkVar "__p", .getVar "__p"] [] true) () (markTok ";" :: ts) _ :=
    assignment_other (atArrow_other rfl rfl) rfl rfl (operation (Nat.le_of_ble_eq_true rfl) rfl rfl hsum)
      (assignmentTail_none rfl)
  refine assignment_name rfl (operand rfl rfl (member_variable (by decide) rfl)) ?_
  rw [hv]
  simpa [appendInstrs] using assignmentTail_add hvalue

theorem statement_pieces (s : Sheet) (u : Token) (nl : Bool) {mask : DeclMask} (heval : w.fn.isEval = false) :
    Does ((grammar (d + 11)).statement mask) (piecesTokens s ((u, nl) :: ts)) w () ((u, nl) :: ts)
      (w.append (appendInstrs w.fn.code.labels.size s ++ [.drop]) (sumLabels (w.fn.code.instrs.size + 3) s.rest) true) := by
  have hstatement : Does (Parse.expressionStatement (grammar (d + 10))) (piecesTokens s ((u, nl) :: ts)) w ()
    ((u, nl) :: ts) _ := expressionStatement (expression (assign_pieces s) rfl) expectSemi
  rw [Writing.append_fn, FunctionState.append_isEval, heval, if_neg Bool.false_ne_true, Writing.append_append]
    at hstatement
  exact statement_name rfl rfl rfl (by simpa using hstatement)

/-- The block that adds the pieces to the result. -/
theorem statement_block (s : Sheet) {mask : DeclMask} (heval : w.fn.isEval = false) :
    Does ((grammar (d + 13)).statement mask)
      (markTok "\x7b" :: piecesTokens s ((.punct "\x7d", true) :: (u, nl) :: ts)) w () ((u, nl) :: ts)
      ((w.counted 1).append (.nop :: (appendInstrs w.fn.code.labels.size s ++ [.drop, .nop]))
        (sumLabels (w.fn.code.instrs.size + 4) s.rest) false) := by
  have hpieces : Does ((grammar (d + 12)).statement .all) (piecesTokens s ((.punct "\x7d", true) :: (u, nl) :: ts))
      ((w.append [.enterScope [] []] [] true).enter false) () ((.punct "\x7d", true) :: (u, nl) :: ts) _ :=
    statement_pieces s _ _ heval
  have hblock : Does (Parse.blockBody (grammar (d + 12)))
      (markTok "\x7b" :: piecesTokens s ((.punct "\x7d", true) :: (u, nl) :: ts)) w () ((u, nl) :: ts) _ :=
    blockBody (n := 0) rfl (.last (hpieces.bind ((isPunct "\x7d").bind (pure _ _ _)))) (by simp)
  refine sourceElement rfl rfl rfl (statementOf_block ?_)
  simpa [Nat.add_assoc] using hblock

/-- The values of a template, or an object without properties. -/
theorem assign_values :
    Does ((grammar (d + 2)).assign true)
      (nameTok "obj" :: markTok "||" :: markTok "\x7b" :: markTok "\x7d" :: markTok ")" :: ts) w () (markTok ")" :: ts)
      (w.append [.getVar "obj", .dup, .jumpTrue w.fn.code.labels.size, .drop, .newObject] [w.fn.code.instrs.size + 5]
        false) := by
  have hobj : Does (binaryExpression (grammar (d + 1)) true 8)
      (nameTok "obj" :: markTok "||" :: markTok "\x7b" :: markTok "\x7d" :: markTok ")" :: ts) w ()
      (markTok "||" :: markTok "\x7b" :: markTok "\x7d" :: markTok ")" :: ts) (w.append [.getVar "obj"] [] true) :=
    binary_upTo (Nat.zero_le 8) rfl (fun level _ hle => by interval_cases level <;> rfl)
      (unary (member_variable (by decide) rfl) rfl rfl)
  have hempty (w : Writing) : Does (binaryExpression (grammar (d + 1)) true 8)
      (markTok "\x7b" :: markTok "\x7d" :: markTok ")" :: ts) w () (markTok ")" :: ts) (w.append [.newObject] [] true) :=
    binary_upTo (Nat.zero_le 8) rfl (fun level _ _ => operatorAt_closes rfl level)
      (unary (member_primary (primary_object rfl) rfl) rfl rfl)
  exact assignment_name rfl (conditional_none (coalesce_or hobj hempty rfl) rfl) (assignmentTail_none rfl)

/-- The names of tags are looked up in the values of the template first. -/
theorem statement_with (s : Sheet) {mask : DeclMask} (heval : w.fn.isEval = false) :
    Does ((grammar (d + 14)).statement mask) (withTokens s ((u, nl) :: ts)) w () ((u, nl) :: ts)
      ((w.counted 2).append (withInstrs w.fn.code.labels.size s) (withLabels w.fn.code.instrs.size s) false) := by
  have hwith : Does (Parse.withStatement (grammar (d + 13))) (withTokens s ((u, nl) :: ts)) w () ((u, nl) :: ts) _ :=
    withStatement (expression assign_values rfl) heval (statement_block s heval)
  refine sourceElement rfl rfl rfl (statementOf_with ?_)
  simpa [withTokens, withInstrs, withLabels, Nat.add_assoc] using hwith

/-! ## The function `print` -/

@[simp] theorem withArguments_append (w : Writing) (is : List Instr) (ls : List Nat) (b : Bool) :
    withArguments (w.append is ls b) = (withArguments w).append is ls b := rfl

/-- The arguments are joined. -/
theorem assign_joined (hallowed : w.fn.argumentsAllowed) :
    Does ((grammar (d + 3)).assign true)
      (nameTok "__j" :: markTok "." :: nameTok "call" :: markTok "(" :: nameTok "arguments" :: markTok ","
        :: (.string #[], false) :: markTok ")" :: markTok ";" :: ts) w () (markTok ";" :: ts)
      ((withArguments w).append [.getVar "__j", .getFieldKeep "call", .getVar "arguments", .push (.str #[]), .callMethod 2]
        [] true) := by
  refine assignment_name rfl (operand rfl rfl (member (primary_ident (by decide) rfl) ?_)) (assignmentTail_none rfl)
  intro fuel column hfuel
  obtain ⟨fuel, rfl⟩ : ∃ n, fuel = n + 2 := ⟨fuel - 2, by simp at hfuel; omega⟩
  refine accesses_field rfl fun column => ?_
  have hname : Does (primary (grammar (d + 1)))
      (nameTok "arguments" :: markTok "," :: (.string #[], false) :: markTok ")" :: markTok ";" :: ts)
      (w.append [.getVar "__j", .getFieldKeep "call"] [] true) (.plain, false)
      (markTok "," :: (.string #[], false) :: markTok ")" :: markTok ";" :: ts)
      (((withArguments w).append [.getVar "__j", .getFieldKeep "call"] [] true).append [.getVar "arguments"] [] true) :=
    primary_arguments hallowed rfl
  have hempty (w : Writing) : Does ((grammar (d + 2)).assign true)
      ((.string #[], false) :: markTok ")" :: markTok ";" :: ts) w () (markTok ")" :: markTok ";" :: ts)
      (w.append [.push (.str #[])] [] true) := assign_constant rfl rfl rfl rfl (primary_string _)
  have hargs {bound : Nat} (h : 2 ≤ bound) : Does (plainArguments (grammar (d + 2)) bound 0)
      (nameTok "arguments" :: markTok "," :: (.string #[], false) :: markTok ")" :: markTok ";" :: ts)
      (w.append [.getVar "__j", .getFieldKeep "call"] [] true) (2, false) (markTok ")" :: markTok ";" :: ts)
      ((((withArguments w).append [.getVar "__j", .getFieldKeep "call"] [] true).append [.getVar "arguments"] [] true).append
        [.push (.str #[])] [] true) := by
    obtain ⟨bound, rfl⟩ : ∃ n, bound = n + 2 := ⟨bound - 2, by omega⟩
    exact plainArguments_more rfl rfl
      (assignment_name rfl (operand rfl rfl (member_primary hname rfl)) (assignmentTail_none rfl))
      (plainArguments_last rfl rfl (hempty _))
  refine accesses_method hargs ?_
  simpa using accesses_none fuel column rfl

/-- The arguments are added to the result. -/
theorem statement_joined (u : Token) (nl : Bool) {mask : DeclMask} (hallowed : w.fn.argumentsAllowed)
    (heval : w.fn.isEval = false) :
    Does ((grammar (d + 6)).statement mask) (joinTokens ((u, nl) :: ts))
      w () ((u, nl) :: ts)
      ((withArguments w).append [.checkVar "__p", .getVar "__p", .getVar "__j", .getFieldKeep "call",
        .getVar "arguments", .push (.str #[]), .callMethod 2, .binary .add, .dup, .putVar "__p", .drop] [] true) := by
  have hassign : Does ((grammar (d + 4)).assign true) (joinTokens ((u, nl) :: ts))
      w () (markTok ";" :: (u, nl) :: ts)
      ((withArguments w).append [.checkVar "__p", .getVar "__p", .getVar "__j", .getFieldKeep "call",
        .getVar "arguments", .push (.str #[]), .callMethod 2, .binary .add, .dup, .putVar "__p"] [] true) := by
    refine assignment_name rfl (operand rfl rfl (member_variable (by decide) rfl)) ?_
    simpa using assignmentTail_add
      (@assign_joined d ((u, nl) :: ts) (w.append [.checkVar "__p", .getVar "__p"] [] true) hallowed)
  have hstatement : Does (Parse.expressionStatement (grammar (d + 5))) (joinTokens ((u, nl) :: ts))
      w () ((u, nl) :: ts) _ := expressionStatement (expression hassign rfl) expectSemi
  have hdrop : (withArguments w).fn.isEval = false := heval
  rw [Writing.append_fn, FunctionState.append_isEval, hdrop, if_neg Bool.false_ne_true, Writing.append_append]
    at hstatement
  exact statement_name rfl rfl rfl hstatement

/-- The function is read. -/
theorem function_print (u : Token) (nl : Bool) (start : Cursor) (hplain : w.fn.IsPlain) :
    Does ((grammar (d + 7)).function .expression .normal start) (printTokens ((u, nl) :: ts)) w
      (w.base + w.codes.size) ((u, nl) :: ts) (w.made (w.codes.push (printCode w.file))) := by
  have hjoined : Does ((grammar (d + 6)).statement { functions := true, labelledFunctions := true, others := true })
      (joinTokens (markTok "\x7d" :: (u, nl) :: ts)) (w.inside "").body () (markTok "\x7d" :: (u, nl) :: ts)
      (((withArguments (w.inside "").body).append [.checkVar "__p", .getVar "__p", .getVar "__j", .getFieldKeep "call",
        .getVar "arguments", .push (.str #[]), .callMethod 2, .binary .add, .dup, .putVar "__p"] [] true).append
          [.drop] [] true) := by
    simpa using statement_joined (w := (w.inside "").body) _ _ rfl rfl
  have hrounds : Rounds (bodyStep (grammar (d + 6))) 1 (joinTokens (markTok "\x7d" :: (u, nl) :: ts)) (w.inside "").body
      (markTok "\x7d" :: (u, nl) :: ts) _ :=
    .more ((isPunct "\x7d").bind (hjoined.bind (pure _ _ _))) (.last ((isPunct "\x7d").bind (pure _ _ _)))
  have hbody : Does (Parse.functionBody (grammar (d + 6)) .expression "" start)
      (markTok "\x7b" :: joinTokens (markTok "\x7d" :: (u, nl) :: ts)) (w.inside "").body _
      ((u, nl) :: ts) _ :=
    functionBody (fun v => Token.noConfusion) rfl rfl hrounds (by simp) (end_drop rfl rfl) rfl hplain rfl
  exact functionExpression functionHead_unnamed (functionRest rfl rfl (parameters_none _ _) hbody)

/-! ## Declarations -/

theorem findLexical_none {f : FunctionState} (h : f.scopes = [{ id := 0 }]) (name : String) (caught : Bool) :
    findLexical f name caught = none := by
  simp [findLexical, h]

/-- The result is empty at first. -/
theorem declaration_result (hscopes : w.fn.scopes = [{ id := 0 }]) :
    Does (declaration (grammar (d + 2)) true .var)
      (resultDeclaration ts) w true (joinDeclaration ts) ((w.declare "__p").append [.checkVar "__p", .push (.str #[]), .putVar "__p"] [] true) := by
  have hvalue : Does ((grammar (d + 2)).assign true) ((.string #[], false) :: markTok "," :: joinDeclaration ts)
      ((w.declare "__p").append [.checkVar "__p"] [] true) () (markTok "," :: joinDeclaration ts)
      (((w.declare "__p").append [.checkVar "__p"] [] true).append [.push (.str #[])] [] true) :=
    assign_constant rfl rfl rfl rfl (primary_string _)
  have hread : Does (declaration (grammar (d + 2)) true .var) (resultDeclaration ts) w true (joinDeclaration ts) _ :=
    declaration_value (findLexical_none hscopes _ _) hvalue (nameLast_named rfl _)
  simpa using hread

/-- The function that joins. -/
theorem declaration_join (hscopes : w.fn.scopes = [{ id := 0 }]) :
    Does (declaration (grammar (d + 2)) true .var)
      (joinDeclaration ts) w true (printDeclaration ts)
      ((w.declare "__j").append
        [.checkVar "__j", .getVar "Array", .getField "prototype", .getField "join", .putVar "__j"] [] true) := by
  have hvalue (w : Writing) : Does ((grammar (d + 2)).assign true)
      (nameTok "Array" :: markTok "." :: nameTok "prototype" :: markTok "." :: nameTok "join" :: markTok ","
        :: printDeclaration ts) w () (markTok "," :: printDeclaration ts)
      ((w.append [.getVar "Array", .getField "prototype"] [] true).append [.getField "join"] [] true) := by
    refine assignment_name rfl (operand rfl rfl (member (primary_ident (by decide) rfl) ?_)) (assignmentTail_none rfl)
    intro fuel column hfuel
    obtain ⟨fuel, rfl⟩ : ∃ n, fuel = n + 2 := ⟨fuel - 2, by simp at hfuel; omega⟩
    refine accesses_field rfl fun column => ?_
    have hsplit : w.append [.getVar "Array", .getField "prototype"] [] true
        = (w.append [.getVar "Array"] [] true).append [.getField "prototype"] [] true := by simp
    rw [hsplit]
    refine accesses_field rfl fun column => ?_
    simpa using accesses_none fuel column rfl
  have hread : Does (declaration (grammar (d + 2)) true .var) (joinDeclaration ts) w true (printDeclaration ts) _ :=
    declaration_value (findLexical_none hscopes _ _) (hvalue _) (nameLast_named rfl _)
  simpa using hread

/-- The function `print`. -/
theorem declaration_print (hscopes : w.fn.scopes = [{ id := 0 }]) (hplain : w.fn.IsPlain) :
    Does (declaration (grammar (d + 8)) true .var)
      (printDeclaration ((u, nl) :: ts)) w false (markTok ";" :: (u, nl) :: ts)
      (((w.made (w.codes.push (printCode w.file))).declare "print").append
        [.checkVar "print", .closure (w.base + w.codes.size), .setName "print", .putVar "print"] [] true) := by
  have hbefore : ((w.declare "print").append [.checkVar "print"] [] true).fn.IsPlain :=
    ⟨hplain.strict, hplain.kind, hplain.form⟩
  have hmade : Does (primary (grammar (d + 7))) (printTokens (markTok ";" :: (u, nl) :: ts))
      ((w.declare "print").append [.checkVar "print"] [] true) (.plain, false) (markTok ";" :: (u, nl) :: ts)
      ((((w.made (w.codes.push (printCode w.file))).declare "print").append [.checkVar "print"] [] true).append
        [.closure (w.base + w.codes.size), .setName ""] [] true) :=
    primary_function fun start => function_print _ _ start hbefore
  have hvalue : Does ((grammar (d + 8)).assign true) (printTokens (markTok ";" :: (u, nl) :: ts))
      ((w.declare "print").append [.checkVar "print"] [] true) () (markTok ";" :: (u, nl) :: ts)
      ((((w.made (w.codes.push (printCode w.file))).declare "print").append
        [.checkVar "print", .closure (w.base + w.codes.size)] [] true).append [.setName ""] [] true) := by
    simpa using assign_constant rfl rfl rfl rfl hmade
  have hread : Does (declaration (grammar (d + 8)) true .var) (printDeclaration ((u, nl) :: ts)) w false
      (markTok ";" :: (u, nl) :: ts) _ :=
    declaration_value (findLexical_none hscopes _ _) hvalue (nameLast_unnamed _)
  simpa using hread

/-- The variables of a template are declared, and its function is there. -/
def declared (w : Writing) : Writing :=
  ((((w.made (w.codes.push (printCode w.file))).declare "__t").declare "__p").declare "__j").declare "print"

/-- The variables are declared. -/
theorem statement_head {mask : DeclMask} (hscopes : w.fn.scopes = [{ id := 0 }]) (hplain : w.fn.IsPlain) :
    Does ((grammar (d + 9)).statement mask) (headTokens ((u, nl) :: ts)) w () ((u, nl) :: ts)
      ((declared w).append (headInstrs (w.base + w.codes.size)) [] true) := by
  have hvalue : Does (declaration (grammar (d + 8)) true .var)
      (nameTok "__t" :: markTok "," :: resultDeclaration ((u, nl) :: ts)) w true (resultDeclaration ((u, nl) :: ts))
      (w.declare "__t") := declaration_plain rfl (findLexical_none hscopes _ _)
  have hresult := @declaration_result (d + 6) ((u, nl) :: ts) (w.declare "__t") hscopes
  have hjoin := @declaration_join (d + 6) ((u, nl) :: ts)
    (((w.declare "__t").declare "__p").append [.checkVar "__p", .push (.str #[]), .putVar "__p"] [] true)
    (by simpa using hscopes)
  rw [Writing.declare_append, Writing.append_append] at hjoin
  have hprint := @declaration_print d ts
    ((((w.declare "__t").declare "__p").declare "__j").append [.checkVar "__p", .push (.str #[]), .putVar "__p",
      .checkVar "__j", .getVar "Array", .getField "prototype", .getField "join", .putVar "__j"] [] true)
    u nl (by simpa using hscopes) ((((hplain.addVar "__t").addVar "__p").addVar "__j").append _ _ _)
  have hdeclarations : Does (declarations (grammar (d + 8)) true .var)
      (nameTok "__t" :: markTok "," :: resultDeclaration ((u, nl) :: ts)) w () (markTok ";" :: (u, nl) :: ts) _ :=
    repeatStep (.more hvalue (.more hresult (.more hjoin (.last hprint)))) (by simp)
  have hread : Does (statementOf (grammar (d + 8)) none mask) (headTokens ((u, nl) :: ts)) w () ((u, nl) :: ts) _ :=
    statementOf_var hdeclarations
  refine sourceElement rfl rfl rfl ?_
  simpa [headTokens, declared, headInstrs] using hread

/-! ## The body -/

/-- The result is returned. -/
theorem statement_return {mask : DeclMask} (heval : w.fn.isEval = false) (hkind : w.fn.code.kind = .normal)
    (hbreaks : w.fn.breaks = []) :
    Does ((grammar (d + 3)).statement mask) ((.keyword "return", true) :: nameTok "__p" :: markTok ";" :: (u, nl) :: ts) w ()
      ((u, nl) :: ts) (w.append [.getVar "__p", .returnValue] [] true) := by
  have hread : Does (statementOf (grammar (d + 2)) none mask)
      ((.keyword "return", true) :: nameTok "__p" :: markTok ";" :: (u, nl) :: ts) w () ((u, nl) :: ts) _ :=
    statementOf_return heval ⟨rfl, rfl⟩ (expression (assign_variable (by decide) rfl rfl) rfl) hkind hbreaks
  refine sourceElement rfl rfl rfl ?_
  simpa using hread

/-- The statements of the body, one after the other. -/
theorem rounds_body (s : Sheet) (hscopes : w.fn.scopes = [{ id := 0 }]) (hplain : w.fn.IsPlain)
    (heval : w.fn.isEval = false) (hbreaks : w.fn.breaks = []) (hempty : w.fn.code.instrs = #[] ∧ w.fn.code.labels = #[]) :
    Rounds (bodyStep (grammar (d + 14))) 3 (bodyTokens s ((.punct "\x7d", true) :: ts)) w
      ((.punct "\x7d", true) :: ts)
      (((declared w).counted 2).append (bodyInstrs (w.base + w.codes.size) s) (withLabels 12 s) true) := by
  have hdeclared : (declared w).fn.isEval = false ∧ (declared w).fn.code.kind = .normal
      ∧ (declared w).fn.breaks = [] := by
    simp [declared, heval, hplain.kind, hbreaks]
  have hstart : (declared w).fn.code.instrs = #[] ∧ (declared w).fn.code.labels = #[] := by
    simpa [declared] using hempty
  have hhead : Does ((grammar (d + 14)).statement { functions := true, labelledFunctions := true, others := true })
      (bodyTokens s ((.punct "\x7d", true) :: ts)) w () (withTokens s
        ((.keyword "return", true) :: nameTok "__p" :: markTok ";" :: (.punct "\x7d", true) :: ts))
      ((declared w).append (headInstrs (w.base + w.codes.size)) [] true) := statement_head hscopes hplain
  have hwith : Does ((grammar (d + 14)).statement { functions := true, labelledFunctions := true, others := true })
      (withTokens s ((.keyword "return", true) :: nameTok "__p" :: markTok ";" :: (.punct "\x7d", true) :: ts))
      ((declared w).append (headInstrs (w.base + w.codes.size)) [] true) ()
      ((.keyword "return", true) :: nameTok "__p" :: markTok ";" :: (.punct "\x7d", true) :: ts)
      (((declared w).counted 2).append (headInstrs (w.base + w.codes.size) ++ withInstrs 0 s) (withLabels 12 s) false) := by
    simpa [hstart] using statement_with (w := (declared w).append (headInstrs (w.base + w.codes.size)) [] true) s
      hdeclared.1
  have hreturn : Does ((grammar (d + 14)).statement { functions := true, labelledFunctions := true, others := true })
      ((.keyword "return", true) :: nameTok "__p" :: markTok ";" :: (.punct "\x7d", true) :: ts)
      (((declared w).counted 2).append (headInstrs (w.base + w.codes.size) ++ withInstrs 0 s) (withLabels 12 s) false) ()
      ((.punct "\x7d", true) :: ts)
      (((declared w).counted 2).append (bodyInstrs (w.base + w.codes.size) s) (withLabels 12 s) true) := by
    simpa [bodyInstrs] using statement_return (w := ((declared w).counted 2).append
      (headInstrs (w.base + w.codes.size) ++ withInstrs 0 s) (withLabels 12 s) false) hdeclared.1 hdeclared.2.1 hdeclared.2.2
  exact .more ((isPunct "\x7d").bind (hhead.bind (pure _ _ _))) (.more ((isPunct "\x7d").bind (hwith.bind (pure _ _ _)))
    (.more ((isPunct "\x7d").bind (hreturn.bind (pure _ _ _))) (.last ((isPunct "\x7d").bind (pure _ _ _)))))

/-! ## The function -/

/-- The function is entered. -/
def entered (w : Writing) : Writing := (((w.inside "anonymous").params ["obj"]).params ["_"]).body

theorem leave_renderer (w : Writing) (s : Sheet) :
    (((declared (entered w)).counted 2).append (bodyInstrs ((entered w).base + (entered w).codes.size) s)
        (withLabels 12 s) true).leave
      = w.made ((w.codes.push (printCode w.file)).push (renderCode w.file (w.base + w.codes.size) s)) := by
  simp [Writing.leave, entered, declared, Writing.made, Writing.declare, addVar, Writing.inside, Writing.params,
    Writing.body, Writing.counted, Writing.append, FunctionState.append, closeBody, renderCode]

/-- A function whose code was read after that of `print`. -/
theorem function_renderer (s : Sheet) (start : Cursor) (hplain : w.fn.IsPlain) :
    Does ((grammar (d + 15)).function .expression .normal start)
      (wordTok "function" :: nameTok "anonymous" :: markTok "(" :: nameTok "obj" :: markTok "," :: nameTok "_"
        :: (.punct ")", true) :: markTok "\x7b" :: bodyTokens s ((.punct "\x7d", true) :: (u, nl) :: ts))
      w (w.base + (w.codes.push (printCode w.file)).size) ((u, nl) :: ts)
      (w.made ((w.codes.push (printCode w.file)).push (renderCode w.file (w.base + w.codes.size) s))) := by
  have hparams {fuel : Nat} : Does (Parse.parameters (grammar (d + 14)) false (fuel + 2) false)
      (nameTok "obj" :: markTok "," :: nameTok "_" :: (.punct ")", true) :: markTok "\x7b"
        :: bodyTokens s ((.punct "\x7d", true) :: (u, nl) :: ts)) (w.inside "anonymous") ()
      ((.punct ")", true) :: markTok "\x7b" :: bodyTokens s ((.punct "\x7d", true) :: (u, nl) :: ts))
      (((w.inside "anonymous").params ["obj"]).params ["_"]) := parameters_more parameters_last
  have hrounds := @rounds_body d ((u, nl) :: ts) (entered w) s rfl ⟨rfl, rfl, nofun⟩ rfl rfl ⟨rfl, rfl⟩
  have hlast (w : Writing) (print : Nat) (ls : List Nat) : w.append (bodyInstrs print s) ls true
      = (w.append (headInstrs print ++ (withInstrs 0 s ++ [.getVar "__p"])) [] true).append [.returnValue] ls true := by
    simp [bodyInstrs]
  rw [hlast] at hrounds
  have hbody : Does (Parse.functionBody (grammar (d + 14)) .expression "anonymous" start)
      (markTok "\x7b" :: bodyTokens s ((.punct "\x7d", true) :: (u, nl) :: ts))
      (entered w) _ ((u, nl) :: ts) _ :=
    functionBody (fun v => Token.noConfusion) rfl rfl hrounds (by simp) end_return rfl hplain rfl
  rw [← hlast, leave_renderer w s] at hbody
  exact functionExpression functionHead_named (functionRest rfl rfl hparams hbody)

/-- Looking ahead, tags are passed inside of two brackets. -/
theorem scanCalm_rest (rest : List (NameTag × List Char)) (c c' : String) (cs : List String) (ts : Tokens) :
    scanCalm (c :: c' :: cs) { assignment := true } (restTokens rest ts)
      = scanCalm (c :: c' :: cs) { assignment := true } ts := by
  induction rest with
  | nil => rfl
  | cons tag rest ih =>
    obtain ⟨t, text⟩ := tag
    have hoperand (us : Tokens) : scanCalm (c :: c' :: cs) { assignment := true } (markTok "+" :: operandTokens t us)
        = scanCalm (c :: c' :: cs) { assignment := true } us := by
      unfold operandTokens NameTag.tokens valueTokens
      cases t.escapes <;> rfl
    rw [restTokens, hoperand]
    exact ih

theorem scanCalm_checked (s : Sheet) :
    scanCalm [] {} (checkedTokens s) = some ((.eof, false), { assignment := true }) := by
  have hbefore : scanCalm [] {} (checkedTokens s) = scanCalm ["\x7d", "\x7d", ")"] { assignment := true }
      (restTokens s.rest (markTok ";" :: (.punct "\x7d", true) :: (.keyword "return", true) :: nameTok "__p"
        :: markTok ";" :: [(.punct "\x7d", true), markTok ")", (.eof, false)])) := rfl
  rw [hbefore, scanCalm_rest]
  rfl

/-- The text that is checked is one expression: the function. -/
theorem statement_checked (s : Sheet) {mask : DeclMask} (heval : w.fn.isEval) (hplain : w.fn.IsPlain) :
    Does ((grammar (d + 20)).statement mask) (checkedTokens s) w () [(.eof, false)]
      ((w.made ((w.codes.push (printCode w.file)).push (renderCode w.file (w.base + w.codes.size) s))).append
        [.closure (w.base + (w.codes.push (printCode w.file)).size), .setCompletion] [] true) := by
  have hmade : Does ((grammar (d + 16)).assign true)
      (wordTok "function" :: nameTok "anonymous" :: markTok "(" :: nameTok "obj" :: markTok "," :: nameTok "_"
        :: (.punct ")", true) :: markTok "\x7b" :: bodyTokens s [(.punct "\x7d", true), markTok ")", (.eof, false)])
      w () [markTok ")", (.eof, false)] _ :=
    assign_constant rfl rfl rfl rfl (primary_function fun start => function_renderer s start hplain)
  have hgroup : Does (primary (grammar (d + 17))) (checkedTokens s) w (.plain, false) [(.eof, false)] _ :=
    primary_group (expression hmade rfl)
  have hexpression : Does ((grammar (d + 19)).expression true) (checkedTokens s) w () [(.eof, false)] _ :=
    expression (assignment_other (atArrow_group (scanCalm_checked s) rfl) rfl rfl
      (operand rfl rfl (member_primary hgroup rfl)) (assignmentTail_none rfl)) rfl
  have hstatement : Does (Parse.expressionStatement (grammar (d + 19))) (checkedTokens s) w () [(.eof, false)] _ :=
    expressionStatement hexpression (expectSemi_implied rfl (.inl rfl))
  refine sourceElement rfl rfl rfl (statementOf_group ?_)
  simpa [checkedTokens, heval, renderCode] using hstatement

end ScriptHost.ProtoScript.Does

namespace ScriptHost.Template

open ProtoScript Parse

/-- **The text that is checked is parsed**, to the codes of `print`, of the function, and of the text itself. -/
theorem parse_checked (s : Sheet) :
    ∃ codes, Program.parseChars (checkedChars s) { isGlobal := false, file := "<input>" } = .ok codes
      ∧ codes.map Code.bare = #[printCode "<input>", renderCode "<input>" 0 s, checkedCode] := by
  have hstart : (checkedChars s).head? ≠ some '#' := by
    rw [show (checkedChars s).head? = some '(' from rfl]
    decide
  have hstatement := fun d => @Does.statement_checked d (.program { isGlobal := false, file := "<input>" }) s .all rfl
    ⟨rfl, rfl, nofun⟩
  have hstep (d : Nat) : Does (programStep (grammar (d + 20))) (checkedTokens s)
      (.program { isGlobal := false, file := "<input>" }) true [(.eof, false)] _ :=
    Does.isEof.bind ((hstatement d).bind (Does.pure _ _ _))
  have hlast (d : Nat) (w : Writing) : Does (programStep (grammar (d + 20))) [(.eof, false)] w false [(.eof, false)] w :=
    Does.isEof.bind (Does.pure _ _ _)
  obtain ⟨codes, hcodes, hbare⟩ := parseChars_eq hstart rfl (spelled_checked s) (fun v => Token.noConfusion)
    (.more (hstep _) (.last (hlast _ _))) (by simp)
  exact ⟨codes, hcodes, hbare⟩

end ScriptHost.Template
