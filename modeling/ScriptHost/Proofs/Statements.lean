import ScriptHost.Proofs.Phrases

/-!
# What productions of statements and functions do

The rules for declarations, blocks, returns, `with` and function expressions, as far as generated code has them,
and for whole programs.

* `Writing.declare`, `Writing.enter`, `Writing.inside`, `Writing.leave` — what declarations, scopes and functions
  write.
* `Does.declaration_value`, `Does.withStatement`, `Does.blockBody`, `Does.functionRest` and others — the rules.
* `parseChars_eq` — the codes of a program, from what its productions do.
-/

namespace ScriptHost.ProtoScript

open Parse

/-! ## Declarations -/

/-- What was written, and a variable. -/
def Writing.declare (w : Writing) (name : String) : Writing := { w with fn := addVar name w.fn }

@[simp] theorem FunctionState.addVar_append (f : FunctionState) (name : String) (is : List Instr)
    (ls : List Nat) (b : Bool) : addVar name (f.append is ls b) = (addVar name f).append is ls b := rfl

@[simp] theorem Writing.declare_append (w : Writing) (name : String) (is : List Instr) (ls : List Nat)
    (b : Bool) : (w.append is ls b).declare name = (w.declare name).append is ls b := by
  simp [declare, append]

section

variable (w : Writing) (name : String)

@[simp] theorem Writing.declare_scopes : (w.declare name).fn.scopes = w.fn.scopes := rfl

@[simp] theorem Writing.declare_isEval : (w.declare name).fn.isEval = w.fn.isEval := rfl

@[simp] theorem Writing.declare_breaks : (w.declare name).fn.breaks = w.fn.breaks := rfl

@[simp] theorem Writing.declare_kind : (w.declare name).fn.code.kind = w.fn.code.kind := rfl

@[simp] theorem Writing.declare_instrs : (w.declare name).fn.code.instrs = w.fn.code.instrs := rfl

@[simp] theorem Writing.declare_labels : (w.declare name).fn.code.labels = w.fn.code.labels := rfl

@[simp] theorem Writing.declare_base : (w.declare name).base = w.base := rfl

@[simp] theorem Writing.declare_codes : (w.declare name).codes = w.codes := rfl

@[simp] theorem Writing.declare_file : (w.declare name).file = w.file := rfl

end

namespace FunctionState.IsPlain

variable {f : FunctionState}

theorem append (h : f.IsPlain) (is : List Instr) (ls : List Nat) (b : Bool) : (f.append is ls b).IsPlain :=
  ⟨h.strict, h.kind, h.form⟩

theorem addVar (h : f.IsPlain) (name : String) : (addVar name f).IsPlain := ⟨h.strict, h.kind, h.form⟩

end FunctionState.IsPlain

namespace Does

variable {g : Grammar} {ts ts' ts₁ ts₂ : Tokens} {w w' w₁ w₂ : Writing} {t u v x : Token}
  {nl nl' nl₁ nl₂ nl₃ : Bool} {n : String} {mask : DeclMask}

theorem defineVar (h : findLexical w.fn n false = none) :
    Does (Parse.defineVar .var n) ts w () ts (w.declare n) := by
  refine fn (fun f => rfl) ?_
  dsimp only
  rw [h, if_neg (by simp)]
  exact update (addVar n) (fun _ => rfl) fun _ h => ⟨h.strict, h.kind, h.form⟩

/-- What follows a declaration. -/
def declarationEnd (u : Token) (nl : Bool) (v : Token) (nl' : Bool) (ts : Tokens) : Tokens :=
  if u.isMark "," then (v, nl') :: ts else (u, nl) :: (v, nl') :: ts

theorem declaration_end (v : Token) (nl₁ : Bool) :
    Does (do
      if ← Parse.isPunct "," then
        Parse.next
        return true
      else return false) ((u, nl) :: (v, nl₁) :: ts) w (u.isMark ",")
      (declarationEnd u nl v nl₁ ts) w := by
  refine (isPunct ",").bind ?_
  unfold declarationEnd
  cases u.isMark ","
  · exact pure _ _ _
  · exact next.bind (pure _ _ _)

/-- A variable without a value. -/
theorem declaration_plain (hu : u.isMark "=" = false) (h : findLexical w.fn n false = none) :
    Does (declaration g true .var) ((.ident n false false, nl) :: (u, nl') :: (v, nl₁) :: ts) w
      (u.isMark ",") (declarationEnd u nl' v nl₁ ts) (w.declare n) := by
  refine token ?_
  dsimp only
  rw [if_neg (by simp), if_neg (by simp)]
  refine markToken.bind (next.bind ((defineVar h).bind ((isPunct "=").bind ?_)))
  rw [hu, if_neg (by simp), if_neg (by simp), if_neg (by simp)]
  exact declaration_end v nl₁

/-- A variable with a value. -/
theorem declaration_value (h : findLexical w.fn n false = none)
    (hvalue : Does (g.assign true) ((x, nl₂) :: ts) ((w.declare n).append [.checkVar n] [] true) ()
      ((u, nl₁) :: (v, nl₃) :: ts₁) w₁)
    (hname : Does (nameLast n) ((u, nl₁) :: (v, nl₃) :: ts₁) w₁ () ((u, nl₁) :: (v, nl₃) :: ts₁) w₂) :
    Does (declaration g true .var) ((.ident n false false, nl) :: (.punct "=", nl') :: (x, nl₂) :: ts) w
      (u.isMark ",") (declarationEnd u nl₁ v nl₃ ts₁) (w₂.append [.putVar n] [] true) := by
  refine token ?_
  dsimp only
  rw [if_neg (by simp), if_neg (by simp)]
  refine markToken.bind (next.bind ((defineVar h).bind ((isPunct "=").bind ?_)))
  rw [show Token.isMark (.punct "=") "=" = true from rfl, if_pos rfl]
  refine next.bind ?_
  rw [if_pos (by decide)]
  exact (emit _).bind (hvalue.bind (hname.bind ((emit _).bind (declaration_end v nl₃))))

/-! ## Statements -/

/-- A statement that is neither a function nor labelled starts with its first token. -/
theorem sourceElement (hfunction : t.isWord "function" = false) (hasync : t.isIdent "async" = false)
    (hname : t.name? = none) (h : Does (statementOf g none mask) ((t, nl) :: ts) w () ts₁ w₁) :
    Does (Parse.sourceElement g mask) ((t, nl) :: ts) w () ts₁ w₁ := by
  have hstatement : Does (statementExpression g mask) ((t, nl) :: ts) w () ts₁ w₁ := by
    refine name?.bind ?_
    rw [hname]
    exact h
  refine bind (a := decide (w.fn.scopes.length ≤ 1)) (fn (fun _ => rfl) (pure _ _ _)) ?_
  refine fn (fun _ => rfl) ((isKeyword "function").bind ?_)
  refine (isName "async").bind ?_
  rw [hfunction, hasync, if_neg (by simp), if_neg (by simp)]
  exact (pure _ _ _).bind hstatement

/-- A statement that starts with a name, whatever the name means elsewhere. -/
theorem statement_name (hparted : u.isParted) (hu : u.closes) (hcolon : u.isMark ":" = false)
    (h : Does (Parse.expressionStatement g) ((.ident n false false, nl) :: (u, nl') :: ts) w () ts₁ w₁) :
    Does (Parse.sourceElement g mask) ((.ident n false false, nl) :: (u, nl') :: ts) w () ts₁ w₁ := by
  obtain ⟨p, rfl⟩ : ∃ p, u = .punct p := by
    cases u with
    | punct p => exact ⟨p, rfl⟩
    | _ => cases hparted
  have hlet : Does (isLet mask.others) ((.ident n false false, nl) :: (.punct p, nl') :: ts) w false
      ((.ident n false false, nl) :: (.punct p, nl') :: ts) w := by
    refine (isName "let").bind ?_
    split
    · exact pure _ _ _
    · refine peek.bind ?_
      simp only [Token.closes, closers, List.contains_cons, List.contains_nil, Bool.or_eq_true, beq_iff_eq,
        Bool.or_false] at hu
      rcases hu with rfl | rfl | rfl | rfl | rfl | rfl <;> exact pure _ _ _
  have hname : Does (nameStatement g mask) ((.ident n false false, nl) :: (.punct p, nl') :: ts) w () ts₁ w₁ := by
    refine name?.bind ?_
    rw [if_neg (by simp [Token.name?])]
    refine hlet.bind ?_
    rw [if_neg (by simp)]
    refine peek.bind ((isName "async").bind ?_)
    rw [Bool.and_false, Bool.false_and, if_neg (by simp)]
    exact h
  have hstatement : Does (statementExpression g mask) ((.ident n false false, nl) :: (.punct p, nl') :: ts) w ()
      ts₁ w₁ := by
    refine name?.bind ((peekPunct ":" false).bind ?_)
    rw [hcolon, Bool.and_false, if_neg (by simp)]
    exact token hname
  refine bind (a := decide (w.fn.scopes.length ≤ 1)) (fn (fun _ => rfl) (pure _ _ _)) ?_
  refine fn (fun _ => rfl) ((isKeyword "function").bind ?_)
  refine (isName "async").bind ?_
  rw [show Token.isWord (.ident n false false) "function" = false from rfl, if_neg (by simp)]
  split
  · refine peek.bind (bind (a := !nl' && false) (pure _ _ _) ?_)
    rw [Bool.and_false]
    exact hstatement
  · exact (pure _ _ _).bind hstatement

/-- A value that is not used is dropped, unless it is the value of the program. -/
theorem expressionStatement (h : Does (g.expression true) ts w () ts₁ w₁)
    (hend : Does Parse.expectSemi ts₁ (w₁.append [if w₁.fn.isEval then .setCompletion else .drop] [] true) ()
      ts₂ (w₁.append [if w₁.fn.isEval then .setCompletion else .drop] [] true)) :
    Does (Parse.expressionStatement g) ts w () ts₂
      (w₁.append [if w₁.fn.isEval then .setCompletion else .drop] [] true) :=
  h.bind (fn (fun _ => rfl) ((emit _).bind hend))

/-- A statement that starts with a parenthesis. -/
theorem statementOf_group (h : Does (Parse.expressionStatement g) ((.punct "(", nl) :: ts) w () ts₁ w₁) :
    Does (statementOf g none mask) ((.punct "(", nl) :: ts) w () ts₁ w₁ := token h

/-- Variables that are declared in one statement. -/
theorem statementOf_var
    (h : Does (declarations g true .var) ((t, nl') :: ts) w () ((.punct ";", nl₁) :: (u, nl₂) :: ts₁) w₁) :
    Does (statementOf g none mask) ((.keyword "var", nl) :: (t, nl') :: ts) w () ((u, nl₂) :: ts₁) w₁ := by
  refine token ?_
  have hdeclaration : Does (declarationStatement g .var mask) ((.keyword "var", nl) :: (t, nl') :: ts) w ()
      ((u, nl₂) :: ts₁) w₁ := by
    unfold declarationStatement
    rw [if_neg (by simp)]
    exact next.bind (h.bind expectSemi)
  exact hdeclaration

/-- A return of a value, outside of statements that have to be left first. -/
theorem statementOf_return (heval : w.fn.isEval = false)
    (ht : t.isMark ";" = false ∧ t.isMark "\x7d" = false)
    (h : Does (g.expression true) ((t, false) :: ts) w () ((.punct ";", nl₁) :: (u, nl₂) :: ts₁) w₁)
    (hkind : w₁.fn.code.kind = .normal) (hbreaks : w₁.fn.breaks = []) :
    Does (statementOf g none mask) ((.keyword "return", nl) :: (t, false) :: ts) w () ((u, nl₂) :: ts₁)
      (w₁.append [.returnValue] [] true) := by
  refine token ?_
  have hreturn : Does (emitReturn true) ((.punct ";", nl₁) :: (u, nl₂) :: ts₁) w₁ ()
      ((.punct ";", nl₁) :: (u, nl₂) :: ts₁) (w₁.append [.returnValue] [] true) := by
    refine fn (fun _ => rfl) ?_
    rw [if_neg (by simp), if_neg (by simp [hkind]), hbreaks]
    exact (pure _ _ _).bind (emit _)
  refine fn (fun _ => rfl) ?_
  rw [if_neg (by simp [heval])]
  refine next.bind ((isPunct ";").bind ((isPunct "\x7d").bind (get fun s hs => ?_)))
  rw [ht.1, ht.2, hs.newline, if_pos (by simp)]
  exact h.bind (hreturn.bind expectSemi)

end Does

/-! ## Scopes -/

namespace Writing

/-- A scope is opened by the last instruction. -/
def enter (w : Writing) (forced : Bool) : Writing := { w with fn := openScope forced w.fn }

/-- Scopes were opened and closed again. -/
def counted (w : Writing) (n : Nat) : Writing :=
  { w with fn := { w.fn with scopeCount := w.fn.scopeCount + n } }

variable (w : Writing) (is : List Instr) (ls : List Nat) (b : Bool) (m n : Nat)

@[simp] theorem counted_counted : (w.counted m).counted n = w.counted (m + n) := by
  simp [counted, Nat.add_assoc]

@[simp] theorem append_counted : (w.append is ls b).counted n = (w.counted n).append is ls b := rfl

@[simp] theorem counted_instrs : (w.counted n).fn.code.instrs = w.fn.code.instrs := rfl

@[simp] theorem counted_labels : (w.counted n).fn.code.labels = w.fn.code.labels := rfl

@[simp] theorem enter_instrs (forced : Bool) :
    (w.enter forced).fn.code.instrs = w.fn.code.instrs := rfl

@[simp] theorem enter_labels (forced : Bool) :
    (w.enter forced).fn.code.labels = w.fn.code.labels := rfl

end Writing

namespace Does

variable {g : Grammar} {ts ts' ts₁ ts₂ : Tokens} {w w' w₁ w₂ : Writing} {t u : Token}
  {nl nl' nl₁ nl₂ nl₃ : Bool} {is : List Instr} {ls : List Nat} {b : Bool} {n : Nat} {mask : DeclMask}

theorem withStatement
    (h : Does (g.expression true) ((t, nl₁) :: ts) w () ((.punct ")", nl₂) :: (u, nl₃) :: ts₁) w₁)
    (heval : w₁.fn.isEval = false)
    (hbody : Does (g.statement {}) ((u, nl₃) :: ts₁)
      ((w₁.append [.requireObject, .enterWith] [] true).enter true) () ts₂
      ((((w₁.append [.requireObject, .enterWith] [] true).enter true).counted n).append is ls b)) :
    Does (Parse.withStatement g) ((.keyword "with", nl) :: (.punct "(", nl') :: (t, nl₁) :: ts) w () ts₂
      ((w₁.counted (n + 1)).append (.requireObject :: .enterWith :: (is ++ [.leaveScope])) ls false) := by
  refine isStrict.bind ?_
  rw [if_neg (by simp)]
  refine next.bind (((expect rfl).bind (h.bind (expect rfl))).bind ((emit _).bind ((emit _).bind ?_)))
  refine (update (openScope true) (fun _ => rfl) fun _ h => ⟨h.strict, h.kind, h.form⟩).bind
    (bind (show Does _ ((u, nl₃) :: ts₁) _ () ((u, nl₃) :: ts₁)
      ((w₁.append [.requireObject, .enterWith] [] true).enter true) from ?_) (hbody.bind ?_))
  · refine fn (fun _ => rfl) ?_
    rw [if_neg (by simpa [Writing.enter, openScope] using heval)]
    simpa [Writing.enter] using pure _ _ _
  · have hleave : (w₁.counted (n + 1)).append (.requireObject :: .enterWith :: (is ++ [.leaveScope])) ls false
        = { ((((w₁.append [.requireObject, .enterWith] [] true).enter true).counted n).append is ls b).append
            [.leaveScope] [] true with
          fn := dropScope (((((w₁.append [.requireObject, .enterWith] [] true).enter true).counted n).append
            is ls b).append [.leaveScope] [] true).fn } := by
      simp [Writing.append, FunctionState.append, Writing.enter, Writing.counted, openScope, dropScope,
        Nat.add_comm, Nat.add_left_comm]
    rw [hleave]
    exact (emit _).bind (update dropScope (fun _ => rfl) fun _ h => ⟨h.strict, h.kind, h.form⟩)

theorem pushScope : Does Parse.pushScope ts w () ts ((w.append [.enterScope [] []] [] true).enter false) :=
  (emit _).bind (update (openScope false) (fun _ => rfl) fun _ h => ⟨h.strict, h.kind, h.form⟩)

/-- A step that is taken for one value. -/
theorem forOne {α : Type} {a : α} {f : α → PUnit → Parse (ForInStep PUnit)}
    (h : Does (f a PUnit.unit) ts w (.yield PUnit.unit) ts₁ w₁) :
    Does (forIn [a] PUnit.unit f) ts w PUnit.unit ts₁ w₁ := by
  simp only [List.forIn_cons, List.forIn_nil]
  exact h.bind (pure _ _ _)

/-- The end of a step that is taken for one value. -/
theorem yields {p : Parse Unit} (h : Does p ts w () ts₁ w₁) :
    Does (p >>= fun _ => Pure.pure (ForInStep.yield PUnit.unit)) ts w (.yield PUnit.unit) ts₁ w₁ :=
  h.bind (pure _ _ _)

/-- The innermost scope is left by one more instruction. -/
theorem closeScopes_one {sc : ScopeState} {rest : List ScopeState} (h : w.fn.scopes = sc :: rest) :
    Does (closeScopes w.fn.scopes.length rest.length) ts w () ts
      { w.append [.leaveScope] [] true with fn := { (w.append [.leaveScope] [] true).fn with
          scopes := { sc with leaves := w.fn.code.instrs.size :: sc.leaves } :: rest } } := by
  have hrange : List.range' 0 1 = [0] := rfl
  have hwrite : { w.append [.leaveScope] [] true with fn := { (w.append [.leaveScope] [] true).fn with
      scopes := { sc with leaves := w.fn.code.instrs.size :: sc.leaves } :: rest } }
      = { w.append [.leaveScope] [] true with fn := { (w.append [.leaveScope] [] true).fn with
          scopes := (w.append [.leaveScope] [] true).fn.scopes.modify 0 fun sc => { sc with
            leaves := ((w.append [.leaveScope] [] true).fn.code.instrs.size - 1) :: sc.leaves } } } := by
    simp [h]
  refine fn (fun _ => rfl) ?_
  simp only [Nat.sub_self, h, List.length_cons, Nat.add_sub_cancel_left,
    Std.Legacy.Range.forIn_eq_forIn_range', Std.Legacy.Range.size, Nat.sub_zero, Nat.div_one, hrange]
  rw [hwrite]
  refine (forOne ((emit _).bind (yields ?_))).bind (pure _ _ _)
  exact update (fun f => { f with scopes := f.scopes.modify 0 fun sc => { sc with
    leaves := (f.code.instrs.size - 1) :: sc.leaves } }) (fun _ => rfl) fun _ h => ⟨h.strict, h.kind, h.form⟩

/-- A scope in which nothing was declared is taken out of the code again. -/
theorem popScope : Does Parse.popScope ts
    ((((w.append [.enterScope [] []] [] true).enter false).counted n).append is ls b) () ts
    ((w.counted (n + 1)).append (.nop :: (is ++ [.nop])) ls false) := by
  refine fn (fun _ => rfl) ?_
  generalize hw : (((w.append [.enterScope [] []] [] true).enter false).counted n).append is ls b = w₁
  have hscopes : w₁.fn.scopes = { id := w.fn.scopeCount + 1, enter := w.fn.code.instrs.size } :: w.fn.scopes := by
    rw [← hw]
    simp [Writing.enter, Writing.counted, openScope]
  rw [hscopes]
  dsimp only
  rw [← hscopes]
  refine (closeScopes_one hscopes).bind ?_
  refine fn (fun _ => rfl) ?_
  dsimp only
  rw [if_pos (by decide)]
  have hpatch (i : Nat) (w) : Does (patch i .nop) ts w () ts { w with fn := { w.fn with code := { w.fn.code with
      instrs := w.fn.code.instrs.setIfInBounds i .nop } } } := update (fun f => { f with code := { f.code with
      instrs := f.code.instrs.setIfInBounds i .nop } }) (fun _ => rfl) fun _ h => ⟨h.strict, h.kind, h.form⟩
  have hresult : (w.counted (n + 1)).append (.nop :: (is ++ [.nop])) ls false
      = { w₁.append [.leaveScope] [] true with fn := { (w₁.append [.leaveScope] [] true).fn with
          lastOp := none
          scopes := w.fn.scopes
          code := { (w₁.append [.leaveScope] [] true).fn.code with
            instrs := ((w₁.append [.leaveScope] [] true).fn.code.instrs.setIfInBounds
              w.fn.code.instrs.size .nop).setIfInBounds w₁.fn.code.instrs.size .nop } } } := by
    rw [← hw]
    simp [Writing.append, FunctionState.append, Writing.enter, Writing.counted, openScope,
      Array.setIfInBounds_append_right]
    omega
  rw [hresult]
  refine (hpatch _ _).bind ((forOne (yields (hpatch _ _))).bind ?_)
  exact update (fun f => { f with scopes := w.fn.scopes, lastOp := none }) (fun _ => rfl)
    fun _ h => ⟨h.strict, h.kind, h.form⟩

/-- A block in which nothing is declared. -/
theorem blockBody {m : Nat} (ht : t.isMark "\x7d" = false)
    (h : Rounds (do
        g.statement .all
        return !(← Parse.isPunct "\x7d")) m ((t, nl') :: ts)
      ((w.append [.enterScope [] []] [] true).enter false) ((.punct "\x7d", nl₁) :: (u, nl₂) :: ts₁)
      ((((w.append [.enterScope [] []] [] true).enter false).counted n).append is ls b))
    (hm : m < ts.length + 1) :
    Does (Parse.blockBody g) ((.punct "\x7b", nl) :: (t, nl') :: ts) w () ((u, nl₂) :: ts₁)
      ((w.counted (n + 1)).append (.nop :: (is ++ [.nop])) ls false) := by
  refine (expect rfl).bind ((isPunct "\x7d").bind ?_)
  rw [ht, if_pos (by simp)]
  exact pushScope.bind ((repeatStep h hm).bind (popScope.bind next))

theorem statementOf_block (h : Does (Parse.blockBody g) ((.punct "\x7b", nl) :: ts) w () ts₁ w₁) :
    Does (statementOf g none mask) ((.punct "\x7b", nl) :: ts) w () ts₁ w₁ := token h

theorem statementOf_with (h : Does (Parse.withStatement g) ((.keyword "with", nl) :: ts) w () ts₁ w₁) :
    Does (statementOf g none mask) ((.keyword "with", nl) :: ts) w () ts₁ w₁ := token h

end Does

/-! ## Functions -/

/-- A function expression is read. -/
def Writing.inside (w : Writing) (name : String) : Writing :=
  { w with
    outer := w.fn :: w.outer
    fn := {
      code := {
        name
        file := w.file
        selfName := if !name.isEmpty then some name else none }
      mark := 0
      scopes := [{ id := 0 }]
      newTargetAllowed := true
      argumentsAllowed := true } }

/-- More functions were read. -/
def Writing.made (w : Writing) (codes : Array Code) : Writing := { w with codes }

section

variable (w : Writing) (name : String) (codes : Array Code) (is : List Instr) (ls : List Nat) (b : Bool)

@[simp] theorem Writing.made_fn : (w.made codes).fn = w.fn := rfl

@[simp] theorem Writing.append_made : (w.append is ls b).made codes = (w.made codes).append is ls b := rfl

@[simp] theorem Writing.declare_made : (w.declare name).made codes = (w.made codes).declare name := rfl

@[simp] theorem Writing.append_base : (w.append is ls b).base = w.base := rfl

@[simp] theorem Writing.append_codes : (w.append is ls b).codes = w.codes := rfl

@[simp] theorem Writing.append_file : (w.append is ls b).file = w.file := rfl

end

/-- The function has more parameters. -/
def Writing.params (w : Writing) (names : List String) : Writing :=
  { w with fn := { w.fn with code := { w.fn.code with
      params := w.fn.code.params ++ names.map some
      length := w.fn.code.length + names.length } } }

/-- The body of the function is read. -/
def Writing.body (w : Writing) : Writing := { w with fn := { w.fn with inBody := true, lastOp := none } }

/-- The function was read, and the one around it goes on. -/
def Writing.leave (w : Writing) : Writing :=
  match w.outer with
  | [] => w
  | parent :: rest => { w with fn := parent, outer := rest, codes := w.codes.push (closeBody w.fn) }

theorem closeBody_bare (f : FunctionState) : (closeBody f).bare = closeBody f.bare := by
  unfold closeBody FunctionState.bare
  dsimp only
  cases f.scopes.getLast? <;> rfl

theorem closeBody_form (f : FunctionState) : (closeBody f).form = f.code.form := by
  unfold closeBody
  cases f.scopes.getLast? <;> rfl

namespace Does

variable {g : Grammar} {ts ts' ts₁ ts₂ : Tokens} {w w' w₁ w₂ : Writing} {t u : Token}
  {nl nl' nl₁ nl₂ : Bool} {n name : String} {start : Cursor}

theorem enterFunction (name : String) : Does (Parse.enterFunction .expression .normal name) ts w () ts
    (w.inside name) := by
  refine tokenColumn fun column => ?_
  intro s hs
  refine ⟨_, rfl, ⟨hs.present, hs.room, ?_, ⟨hs.plain.strict, rfl, ?_⟩, ?_, hs.base, hs.codes, hs.file⟩⟩
  · simp [Writing.inside, FunctionState.bare, Code.bare, hs.plain.strict, hs.file, FunctionRole.form]
  · simp [FunctionRole.form]
  · simp [Writing.inside, hs.outer, hs.fn]

theorem leaveFunction {parent : FunctionState} {rest : List FunctionState} (source : Text.Units)
    (houter : w.outer = parent :: rest) (hparent : parent.IsPlain) (hform : w.fn.code.form = .plain) :
    Does (Parse.leaveFunction source) ts w (w.base + w.codes.size) ts w.leave := by
  refine get fun s hs => ?_
  have hmap := hs.outer
  rw [houter] at hmap
  obtain ⟨p, ps, hps, rfl, rfl⟩ := List.map_eq_cons_iff.mp hmap
  have hid : s.base + s.codes.size = w.base + w.codes.size := by
    rw [hs.base, ← hs.codes, Array.size_map]
  have hplain : ({ closeBody s.fn with source }.form == FunctionForm.arrow) = false := by
    have hbare : (closeBody s.fn).form = w.fn.code.form := by
      rw [closeBody_form, ← hs.fn]
      rfl
    rw [show ({ closeBody s.fn with source } : Code).form = (closeBody s.fn).form from rfl, hbare, hform]
    rfl
  have hleave : w.leave = { w with
      fn := p.bare, outer := ps.map FunctionState.bare, codes := w.codes.push (closeBody w.fn) } := by
    simp only [Writing.leave, houter]
  rw [hps, hleave, hid]
  dsimp only
  rw [hplain, Bool.false_and, if_neg (by simp)]
  refine (set ?_).bind (pure _ _ _)
  refine ⟨hs.present, hs.room, rfl, ⟨hparent.strict, hparent.kind, hparent.form⟩, rfl, hs.base, ?_, hs.file⟩
  rw [Array.map_push, hs.codes]
  exact congrArg _ ((closeBody_bare s.fn).trans (by rw [hs.fn]))

/-! ### Parameters -/

theorem addParameter (n : String) :
    Does (Parse.addParameter (some n) true) ts w () ts (w.params [n]) :=
  update (fun f => { f with code := { f.code with
    params := f.code.params ++ [some n], length := f.code.length + 1 } }) (fun _ => rfl)
    fun _ h => ⟨h.strict, h.kind, h.form⟩

theorem parameter (hu : u.isMark "=" = false) :
    Does (Parse.parameter g false false) ((.ident n false false, nl) :: (u, nl') :: ts) w false
      ((u, nl') :: ts) (w.params [n]) := by
  refine (isPunct "...").bind ?_
  rw [if_neg (by simp [Token.isMark, Token.isPunct])]
  refine fn (fun _ => rfl) ((isPunct "[").bind ((isPunct "\x7b").bind ?_))
  rw [if_neg (by simp [Token.isMark, Token.isPunct])]
  refine token ?_
  dsimp only
  rw [if_neg (by simp), if_neg (by simp)]
  refine next.bind ?_
  rw [if_neg (by simp [Token.isMark, Token.isPunct])]
  refine (isPunct "=").bind ?_
  rw [hu, if_neg (by simp)]
  refine (addParameter n).bind ?_
  exact (isPunct ")").bind (pure _ _ _)

theorem parameters_none (fuel : Nat) (hadDefault : Bool) :
    Does (Parse.parameters g false fuel hadDefault) ((.punct ")", nl) :: ts) w () ((.punct ")", nl) :: ts) w := by
  cases fuel with
  | zero => exact pure _ _ _
  | succ fuel => exact (isPunct ")").bind (pure _ _ _)

theorem parameters_last {fuel : Nat} :
    Does (Parse.parameters g false (fuel + 1) false) ((.ident n false false, nl) :: (.punct ")", nl') :: ts) w ()
      ((.punct ")", nl') :: ts) (w.params [n]) :=
  (isPunct ")").bind ((parameter rfl).bind ((isPunct ")").bind (pure _ _ _)))

theorem parameters_more {fuel : Nat}
    (h : Does (Parse.parameters g false fuel false) ((t, nl₁) :: ts) (w.params [n]) () ts₁ w₁) :
    Does (Parse.parameters g false (fuel + 1) false)
      ((.ident n false false, nl) :: (.punct ",", nl') :: (t, nl₁) :: ts) w () ts₁ w₁ :=
  (isPunct ")").bind ((parameter rfl).bind ((isPunct ")").bind ((expect rfl).bind h)))

/-! ### Bodies -/

theorem directives (ht : ∀ v, t ≠ .string v) :
    Does Parse.directives ((t, nl) :: ts) w () ((t, nl) :: ts) w := by
  refine get fun s hs => ?_
  have hgo : Does (directives.go (s.size + 2) false) ((t, nl) :: ts) w false ((t, nl) :: ts) w := by
    refine token ?_
    split
    · next v => exact (ht v rfl).elim
    · exact pure _ _ _
  refine hgo.bind ((set hs).bind ?_)
  rw [if_neg (by simp)]
  exact pure _ _ _

theorem checkNames (name : String) (hstrict : w.fn.code.strict = false) (hsimple : w.fn.code.simpleParams) :
    Does (Parse.checkNames .expression name) ts w () ts w := by
  refine fn (fun _ => rfl) ?_
  rw [hstrict, hsimple]
  exact pure _ _ _

/-- The end of a body: it returns nothing if it was not left before. -/
def EndsBody (ts : Tokens) (w w' : Writing) : Prop :=
  (Does isLive ts w false ts w ∧ w' = w)
    ∨ (Does isLive ts w true ts w ∧ Does (emitReturn false) ts w () ts w')

/-- A body that ends with a return. -/
theorem end_return {ls : List Nat} :
    EndsBody ts (w.append [.returnValue] ls true) (w.append [.returnValue] ls true) :=
  .inl ⟨lastInstr.bind (pure _ _ _), rfl⟩

/-- A body whose last value is dropped. -/
theorem end_drop {ls : List Nat} (hkind : w.fn.code.kind = .normal) (hbreaks : w.fn.breaks = []) :
    EndsBody ts (w.append [.drop] ls true)
      (w.append [.drop, .push .undefined, .returnValue] ls true) := by
  refine .inr ⟨lastInstr.bind (pure _ _ _), fn (fun _ => rfl) ?_⟩
  rw [if_pos (by simp)]
  refine (emit _).bind ?_
  rw [if_neg (by simp [hkind]), show (w.append [.drop] ls true).fn.breaks = [] from hbreaks]
  refine (pure _ _ _).bind ?_
  rw [show w.append [.drop, .push .undefined, .returnValue] ls true
    = ((w.append [.drop] ls true).append [.push .undefined] [] true).append [.returnValue] [] true by simp]
  exact emit _

/-- A step through the statements of a body. -/
def bodyStep (g : Grammar) : Parse Bool := do
  if ← Parse.isPunct "\x7d" then return false
  g.statement { functions := true, labelledFunctions := true, others := true }
  return true

theorem functionBody {m : Nat} {parent : FunctionState} {rest : List FunctionState}
    (ht : ∀ v, t ≠ .string v) (hstrict : w.fn.code.strict = false) (hsimple : w.fn.code.simpleParams)
    (h : Rounds (bodyStep g) m ((t, nl') :: ts) w ((.punct "\x7d", nl₁) :: (u, nl₂) :: ts₁) w₁)
    (hm : m < ts.length + 1)
    (hend : EndsBody ((.punct "\x7d", nl₁) :: (u, nl₂) :: ts₁) w₁ w₂)
    (houter : w₂.outer = parent :: rest) (hparent : parent.IsPlain) (hform : w₂.fn.code.form = .plain) :
    Does (Parse.functionBody g .expression name start) ((.punct "\x7b", nl) :: (t, nl') :: ts) w
      (w₂.base + w₂.codes.size) ((u, nl₂) :: ts₁) w₂.leave := by
  refine (expect rfl).bind ((directives ht).bind ((checkNames name hstrict hsimple).bind
    ((repeatStep h hm).bind (get fun s _ => ?_))))
  rcases hend with ⟨hlive, rfl⟩ | ⟨hlive, hreturn⟩
  · exact hlive.bind ((leaveFunction _ houter hparent hform).bind (next.bind (pure _ _ _)))
  · refine hlive.bind ?_
    exact hreturn.bind ((leaveFunction _ houter hparent hform).bind (next.bind (pure _ _ _)))

/-- A function expression: its parameters and its body. -/
theorem functionRest {id : Nat} {after : Token × Bool} {bits : BracketBits}
    (hscan : scanCalm [] {} ((.punct "(", nl) :: (t, nl') :: ts) = some (after, bits))
    (hassign : bits.assignment = false)
    (hparams : ∀ {fuel}, Does (Parse.parameters g false (fuel + 2) false) ((t, nl') :: ts) (w.inside name) ()
      ((.punct ")", nl₁) :: (u, nl₂) :: ts₁) w₁)
    (hbody : Does (Parse.functionBody g .expression name start) ((u, nl₂) :: ts₁) w₁.body id ts₂ w₂) :
    Does (Parse.functionRest g .expression .normal name start) ((.punct "(", nl) :: (t, nl') :: ts) w id ts₂ w₂ := by
  have harrow : (FunctionRole.expression == FunctionRole.arrow) = false := rfl
  have hclass : (FunctionRole.expression == FunctionRole.classConstructor) = false := rfl
  have hstatic : (FunctionRole.expression == FunctionRole.staticBlock) = false := rfl
  have hgetter : (FunctionRole.expression == FunctionRole.getter) = false := rfl
  have hsetter : (FunctionRole.expression == FunctionRole.setter) = false := rfl
  unfold Parse.functionRest
  simp only [harrow, hclass, hstatic, hgetter, hsetter, Bool.false_and, Bool.or_self, Bool.false_eq_true,
    if_false]
  refine (enterFunction name).bind (name?.bind ((isPunct "(").bind ((isPunct "(").bind ?_)))
  rw [show Token.isMark (.punct "(") "(" = true from rfl, if_pos rfl]
  refine (scanBrackets false hscan).bind ((pure _ _ _).bind ((expect rfl).bind (get fun s _ => ?_)))
  rw [hassign]
  refine hparams.bind (fn (fun _ => rfl) (next.bind ?_))
  rw [if_neg (by decide)]
  refine (update (fun f => { f with inBody := true, lastOp := none }) (fun _ => rfl)
    fun _ h => ⟨h.strict, h.kind, h.form⟩).bind ?_
  exact (isPunct "=>").bind ((isPunct "\x7b").bind hbody)

theorem functionExpression {id : Nat}
    (hhead : Does (functionHead .expression .normal) ts w (n, .normal) ts₁ w)
    (h : Does (Parse.functionRest g .expression .normal n start) ts₁ w id ts₂ w₂) :
    Does (Parse.functionExpression g .expression .normal start) ts w id ts₂ w₂ := by
  refine hhead.bind (fn (fun _ => rfl) ?_)
  refine bind (a := decide (w.fn.scopes.length ≤ 1)) (fn (fun _ => rfl) (pure _ _ _)) ?_
  exact h.bind (pure _ _ _)

theorem functionHead_unnamed : Does (functionHead .expression .normal)
    ((.keyword "function", nl) :: (.punct "(", nl') :: ts) w ("", .normal) ((.punct "(", nl') :: ts) w :=
  (isName "async").bind (next.bind ((isPunct "*").bind (token (pure _ _ _))))

theorem functionHead_named : Does (functionHead .expression .normal)
    ((.keyword "function", nl) :: (.ident n false false, nl') :: (u, nl₁) :: ts) w (n, .normal)
    ((u, nl₁) :: ts) w := by
  refine (isName "async").bind (next.bind ((isPunct "*").bind (token ?_)))
  dsimp only
  rw [if_neg (by simp), if_neg (by simp)]
  exact next.bind (pure _ _ _)

/-- A function expression as an operand: the function is made from its code. -/
theorem primary_function {c : Code} {cs : Array Code}
    (h : ∀ start, Does (g.function .expression .normal start) ((.keyword "function", nl) :: ts) w
      (w.base + cs.size) ts₁ (w.made (cs.push c))) :
    Does (primary g) ((.keyword "function", nl) :: ts) w (.plain, false) ts₁
      ((w.made (cs.push c)).append
        (.closure (w.base + cs.size) :: if c.name = "" then [.setName ""] else []) [] true) := by
  refine markToken.bind (get fun s hs => ?_)
  rw [hs.token]
  refine (h s.start).bind ((emit _).bind (get fun s' hs' => ?_))
  have hcode : s'.codes[w.base + cs.size - s.base]?.map (·.name) = some c.name := by
    have hcodes : (s'.codes.map Code.bare)[cs.size]? = some c := by simp [hs'.codes, Writing.made]
    rw [hs.base, Nat.add_sub_cancel_left]
    rw [Array.getElem?_map, Option.map_eq_some_iff] at hcodes
    obtain ⟨d, hd, rfl⟩ := hcodes
    simp [hd, Code.bare]
  rw [hcode]
  by_cases hname : c.name = ""
  · rw [if_pos (by simp [hname]), if_pos hname]
    refine bind (a := ()) ?_ (pure _ _ _)
    simpa using emit (w := (w.made (cs.push c)).append [.closure (w.base + cs.size)] [] true) (.setName "")
  · rw [if_neg (by simp [hname]), if_neg hname]
    exact pure _ _ _

end Does

/-! ## Programs -/

/-- A step through the statements of a program. -/
def programStep (g : Grammar) : Parse Bool := do
  if ← Parse.isEof then return false
  g.statement .all
  return true

/-- What is written of a program before its first statement. -/
def Writing.program (mode : ProgramMode) : Writing where
  fn := (Program.body mode).bare
  base := mode.base
  file := mode.file

/-- The codes of a program that is read to its end. -/
theorem parseChars_eq {chars : List Char} {mode : ProgramMode} {t : Token} {nl : Bool} {ts : Tokens}
    {n : Nat} {w : Writing} (hstart : chars.head? ≠ some '#') (hstrict : mode.strict = false)
    (hspelled : Spelled chars ((t, nl) :: ts)) (ht : ∀ v, t ≠ .string v)
    (h : Rounds (programStep (grammar (4 * chars.length + 64))) n ((t, nl) :: ts) (.program mode)
      [(.eof, false)] w)
    (hn : n < ts.length + 1) :
    ∃ codes, Program.parseChars chars mode = .ok codes ∧ codes.map Code.bare
      = w.codes.push (closeBody (w.append [.getCompletion, .returnValue] [] true).fn) := by
  have hhere : Program.afterShebang chars = { rest := chars } := by
    have hno : (chars.headD '\x00' == '#') = false := by
      cases chars with
      | nil => rfl
      | cons c cs => simpa using hstart
    simp only [Program.afterShebang, Cursor.char, hno, Bool.false_and, Bool.false_eq_true, if_false]
  have hplain : (Program.start chars mode).fn.IsPlain := by
    refine ⟨hstrict, rfl, ?_⟩
    show (if mode.isGlobal then FunctionForm.program else .evalProgram) ≠ .arrow
    cases mode.isGlobal <;> decide
  have hbefore : Shows (Program.start chars mode) ((.eof, false) :: (t, nl) :: ts) (.program mode) :=
    ⟨⟨_, rfl, fun _ => by rw [Program.start, hhere]; exact hspelled⟩,
      Nat.le_of_eq (by rw [Program.start, hhere]), rfl, hplain, rfl, rfl, Array.map_empty, rfl⟩
  have hread : Does (Program.reader (grammar (4 * chars.length + 64))) ((.eof, false) :: (t, nl) :: ts)
      (.program mode) () [(.eof, false)] (w.append [.getCompletion, .returnValue] [] true) := by
    refine Does.next.bind ((Does.directives ht).bind ((Does.repeatStep h hn).bind
      ((Does.emit .getCompletion).bind ?_)))
    rw [show w.append [.getCompletion, .returnValue] [] true
      = (w.append [.getCompletion] [] true).append [.returnValue] [] true by simp]
    exact Does.emit .returnValue
  obtain ⟨s, hrun, hs⟩ := hread _ hbefore
  refine ⟨s.codes.push (closeBody s.fn), ?_, ?_⟩
  · have hrun' : (Program.reader (grammar (4 * chars.length + 64))).run (Program.start chars mode) = .ok () s :=
      hrun
    simp only [Program.parseChars, hrun']
  · rw [Array.map_push, hs.codes, closeBody_bare, hs.fn]
    rfl

end ScriptHost.ProtoScript
