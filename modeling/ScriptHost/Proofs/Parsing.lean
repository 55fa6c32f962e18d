import ScriptHost.ProtoScript.Parser.Program
import ScriptHost.Proofs.Lexing

/-!
# What the parser does with tokens

The parser keeps positions in the text for the sake of errors.  What it writes does not depend on
them: here its steps are described by the tokens that are left and by the code that was written, without
positions.

* `Writing` — what was written so far.
* `Shows` — a state of the parser has these tokens before it and has written this.
* `Does` — a production reads these tokens and writes this, from every state that shows the first.
-/

namespace ScriptHost.ProtoScript

open Parse

/-! ## Without positions -/

/-- Code without its places in a text. -/
def Code.bare (c : Code) : Code := { c with positions := #[], source := #[] }

namespace FunctionState

/-- A function without places in a text. -/
def bare (f : FunctionState) : FunctionState := { f with mark := 0, code := f.code.bare }

/-- A function with more instructions and labels; `live` tells whether the last instruction may still
be turned into a reference. -/
def append (f : FunctionState) (is : List Instr) (ls : List Nat) (live : Bool) : FunctionState :=
  { f with
    lastOp := if live then some (f.code.instrs.size + is.length - 1) else none
    code := { f.code with
      instrs := f.code.instrs ++ is.toArray
      labels := f.code.labels ++ ls.toArray } }

variable (f : FunctionState) (is js : List Instr) (ls ms : List Nat) (b c : Bool)

@[simp] theorem append_append :
    (f.append is ls b).append js ms c = f.append (is ++ js) (ls ++ ms) c := by
  simp [append, Nat.add_assoc]

@[simp] theorem append_instrs : (f.append is ls b).code.instrs = f.code.instrs ++ is.toArray := rfl

@[simp] theorem append_labels : (f.append is ls b).code.labels = f.code.labels ++ ls.toArray := rfl

@[simp] theorem append_strict : (f.append is ls b).code.strict = f.code.strict := rfl

@[simp] theorem append_isEval : (f.append is ls b).isEval = f.isEval := rfl

@[simp] theorem append_scopes : (f.append is ls b).scopes = f.scopes := rfl

@[simp] theorem append_scopeCount : (f.append is ls b).scopeCount = f.scopeCount := rfl

@[simp] theorem append_breaks : (f.append is ls b).breaks = f.breaks := rfl

@[simp] theorem append_kind : (f.append is ls b).code.kind = f.code.kind := rfl

end FunctionState

/-- What the parser has written, without positions. -/
structure Writing where
  fn : FunctionState
  outer : List FunctionState := []
  base : Nat := 0
  codes : Array Code := #[]
  file : String := "eval_script"

/-- What was written, and more instructions and labels in the present function. -/
def Writing.append (w : Writing) (is : List Instr) (ls : List Nat) (live : Bool) : Writing :=
  { w with fn := w.fn.append is ls live }

@[simp] theorem Writing.append_append (w : Writing) (is js : List Instr) (ls ms : List Nat)
    (b c : Bool) : (w.append is ls b).append js ms c = w.append (is ++ js) (ls ++ ms) c := by
  simp [append]

@[simp] theorem Writing.append_fn (w : Writing) (is : List Instr) (ls : List Nat) (b : Bool) :
    (w.append is ls b).fn = w.fn.append is ls b := rfl

/-! ## States and steps -/

/-- Tokens, each with whether a line ends before it. -/
abbrev Tokens := List (Token × Bool)

/-- A state has tokens before it, the present one first, and has written something. -/
structure Shows (s : ParserState) (ts : Tokens) (w : Writing) : Prop where
  present : ∃ later, ts = (s.token, s.newline) :: later ∧ Follow s.here.rest later
  room : s.here.rest.length ≤ s.size
  fn : s.fn.bare = w.fn
  plain : s.fn.IsPlain
  outer : s.outer.map FunctionState.bare = w.outer
  base : s.base = w.base
  codes : s.codes.map Code.bare = w.codes
  file : s.file = w.file

/-- From every state with these tokens and this writing, a production answers `a` and leaves those. -/
def Does {α : Type} (p : Parse α) (ts : Tokens) (w : Writing) (a : α) (ts' : Tokens)
    (w' : Writing) : Prop :=
  ∀ s, Shows s ts w → ∃ s', p s = .ok a s' ∧ Shows s' ts' w'

namespace Shows

variable {s : ParserState} {ts : Tokens} {w : Writing} {t : Token} {nl : Bool}

theorem token (h : Shows s ((t, nl) :: ts) w) : s.token = t := by
  obtain ⟨later, heq, -⟩ := h.present
  cases heq
  rfl

theorem newline (h : Shows s ((t, nl) :: ts) w) : s.newline = nl := by
  obtain ⟨later, heq, -⟩ := h.present
  cases heq
  rfl

theorem follow (h : Shows s ((t, nl) :: ts) w) : Follow s.here.rest ts := by
  obtain ⟨later, heq, hfollow⟩ := h.present
  cases heq
  exact hfollow

/-- The parts that tell positions may differ. -/
theorem kept {s' : ParserState} (h : Shows s ts w) (hkept : Kept s s') {ts' : Tokens}
    (hpresent : ∃ later, ts' = (s'.token, s'.newline) :: later ∧ Follow s'.here.rest later)
    (hroom : s'.here.rest.length ≤ s'.size) : Shows s' ts' w where
  present := hpresent
  room := hroom
  fn := by rw [hkept.fn, h.fn]
  plain := hkept.fn ▸ h.plain
  outer := by rw [hkept.outer, h.outer]
  base := by rw [hkept.base, h.base]
  codes := by rw [hkept.codes, h.codes]
  file := by rw [hkept.file, h.file]

/-- Another function is read, and nothing else changes. -/
theorem withFn (h : Shows s ts w) {f g : FunctionState} (hf : f.bare = g)
    (hplain : f.IsPlain) : Shows { s with fn := f } ts { w with fn := g } :=
  ⟨h.present, h.room, hf, hplain, h.outer, h.base, h.codes, h.file⟩

end Shows

namespace Does

variable {α β : Type} {p : Parse α} {k : α → Parse β} {ts ts₁ ts₂ : Tokens} {w w₁ w₂ : Writing}
  {a : α} {b : β} {t u : Token} {nl nl' : Bool}

/-! ## Sequences -/

theorem pure (a : α) (ts : Tokens) (w : Writing) : Does (Pure.pure a) ts w a ts w :=
  fun s hs => ⟨s, rfl, hs⟩

theorem bind (hp : Does p ts w a ts₁ w₁) (hk : Does (k a) ts₁ w₁ b ts₂ w₂) :
    Does (p >>= k) ts w b ts₂ w₂ := by
  intro s hs
  obtain ⟨s₁, hrun, hs₁⟩ := hp s hs
  obtain ⟨s₂, hrest, hs₂⟩ := hk s₁ hs₁
  exact ⟨s₂, by rw [bind_apply, hrun]; exact hrest, hs₂⟩

theorem assoc {γ : Type} {f : β → Parse γ} {c : γ}
    (h : Does (p >>= fun a => k a >>= f) ts w c ts₂ w₂) : Does ((p >>= k) >>= f) ts w c ts₂ w₂ := by
  intro s hs
  obtain ⟨s₂, hrun, hs₂⟩ := h s hs
  refine ⟨s₂, ?_, hs₂⟩
  rw [bind_apply] at hrun ⊢
  rw [bind_apply]
  cases hp : p s with
  | ok a s₁ => simpa only [hp, bind_apply] using hrun
  | error e s₁ => simp [hp] at hrun

theorem map {f : α → β} (hp : Does p ts w a ts₁ w₁) : Does (f <$> p) ts w (f a) ts₁ w₁ := by
  intro s hs
  obtain ⟨s₁, hrun, hs₁⟩ := hp s hs
  exact ⟨s₁, by rw [map_apply, hrun], hs₁⟩

theorem tryCatch {h : SyntaxFault → Parse α} (hp : Does p ts w a ts₁ w₁) :
    Does (tryCatch p h) ts w a ts₁ w₁ := by
  intro s hs
  obtain ⟨s₁, hrun, hs₁⟩ := hp s hs
  exact ⟨s₁, by rw [tryCatch_apply, hrun], hs₁⟩

/-- What a step answers may tell positions, which the rest does not depend on. -/
theorem bindSome (hp : ∀ s, Shows s ts w → ∃ a s₁, p s = .ok a s₁ ∧ Shows s₁ ts₁ w₁)
    (hk : ∀ a, Does (k a) ts₁ w₁ b ts₂ w₂) : Does (p >>= k) ts w b ts₂ w₂ := by
  intro s hs
  obtain ⟨a, s₁, hrun, hs₁⟩ := hp s hs
  obtain ⟨s₂, hrest, hs₂⟩ := hk a s₁ hs₁
  exact ⟨s₂, by rw [bind_apply, hrun]; exact hrest, hs₂⟩

/-! ## The state itself -/

theorem get {k : ParserState → Parse β} (h : ∀ s, Shows s ts w → Does (k s) ts w b ts₂ w₂) :
    Does (MonadState.get >>= k) ts w b ts₂ w₂ :=
  fun s hs => h s hs s hs

theorem set {s : ParserState} (hs : Shows s ts₁ w₁) : Does (MonadStateOf.set s) ts w () ts₁ w₁ :=
  fun _ _ => ⟨s, rfl, hs⟩

/-- The function that is read is seen without its positions. -/
theorem fn {k : FunctionState → Parse β} (hbare : ∀ f, k f = k f.bare)
    (h : Does (k w.fn) ts w b ts₂ w₂) : Does (Parse.fn >>= k) ts w b ts₂ w₂ := by
  intro s hs
  rw [← hs.fn, ← hbare] at h
  exact h s hs

theorem tokenColumn {k : Nat → Parse β} (h : ∀ n, Does (k n) ts w b ts₂ w₂) :
    Does (Parse.tokenColumn >>= k) ts w b ts₂ w₂ :=
  bindSome (fun s hs => ⟨_, s, rfl, hs⟩) h

theorem tokenText {k : String → Parse β} (h : ∀ n, Does (k n) ts w b ts₂ w₂) :
    Does (Parse.tokenText >>= k) ts w b ts₂ w₂ :=
  bindSome (fun s hs => ⟨_, s, rfl, hs⟩) h

theorem isStrict : Does Parse.isStrict ts w false ts w :=
  fun s hs => ⟨s, congrArg (EStateM.Result.ok · s) hs.plain.strict, hs⟩

/-! ## Looking at the present token -/

theorem token {k : Token → Parse β} (h : Does (k t) ((t, nl) :: ts) w b ts₂ w₂) :
    Does (Parse.token >>= k) ((t, nl) :: ts) w b ts₂ w₂ := by
  intro s hs
  rw [← hs.token] at h
  exact h s (hs.token ▸ hs)

end Does

/-- Whether a token is the given punctuation. -/
def Token.isMark (t : Token) (p : String) : Bool := Token.isPunct (some t) p

/-- Whether a token is the given reserved word. -/
def Token.isWord (t : Token) (k : String) : Bool := match t with
  | .keyword l => l == k
  | _ => false

/-- Whether a token is the given name, written without an escape. -/
def Token.isIdent (t : Token) (n : String) : Bool := match t with
  | .ident m escaped _ => m == n && !escaped
  | _ => false

/-- The name that a token is, unless it is reserved. -/
def Token.name? : Token → Option String
  | .ident n _ reserved => if reserved then none else some n
  | _ => none

def Token.isEof : Token → Bool
  | .eof => true
  | _ => false

namespace Does

variable {β : Type} {ts ts₂ : Tokens} {w w₂ : Writing} {b : β} {t u : Token} {nl nl' : Bool}

theorem isPunct (p : String) : Does (Parse.isPunct p) ((t, nl) :: ts) w (t.isMark p)
    ((t, nl) :: ts) w := by
  refine token ?_
  cases t <;> exact pure _ _ _

theorem isKeyword (k : String) : Does (Parse.isKeyword k) ((t, nl) :: ts) w (t.isWord k)
    ((t, nl) :: ts) w := by
  refine token ?_
  cases t <;> exact pure _ _ _

theorem isName (n : String) : Does (Parse.isName n) ((t, nl) :: ts) w (t.isIdent n)
    ((t, nl) :: ts) w := by
  refine token ?_
  cases t <;> exact pure _ _ _

theorem name? : Does Parse.name? ((t, nl) :: ts) w t.name? ((t, nl) :: ts) w := by
  refine token ?_
  cases t <;> exact pure _ _ _

theorem isEof : Does Parse.isEof ((t, nl) :: ts) w t.isEof ((t, nl) :: ts) w := by
  refine token ?_
  cases t <;> exact pure _ _ _

/-! ## Passing and looking ahead -/

theorem next : Does Parse.next ((t, nl) :: (u, nl') :: ts) w () ((u, nl') :: ts) w := by
  intro s hs
  obtain ⟨s', hrun, hkept, htoken, hnewline, hfollow, hroom⟩ :=
    Lexer.next_spelled (hs.follow (by simp)) hs.room hs.plain
  exact ⟨s', hrun, hs.kept hkept ⟨ts, by rw [htoken, hnewline], hfollow⟩ hroom⟩

theorem expect {p : String} (h : t.isMark p) :
    Does (Parse.expect p) ((t, nl) :: (u, nl') :: ts) w () ((u, nl') :: ts) w := by
  refine (isPunct p).bind ?_
  rw [h, if_pos rfl]
  exact next

theorem peek : Does Lexer.peek ((t, nl) :: (u, nl') :: ts) w (u, nl') ((t, nl) :: (u, nl') :: ts) w :=
  fun s hs => ⟨s, Lexer.peek_spelled (hs.follow (by simp)) hs.room hs.plain, hs⟩

theorem peekPunct (p : String) (sameLine : Bool) :
    Does (Parse.peekPunct p sameLine) ((t, nl) :: (u, nl') :: ts) w
      (!(sameLine && nl') && u.isMark p) ((t, nl) :: (u, nl') :: ts) w :=
  peek.bind (pure _ _ _)

/-- A semicolon is implied by a closing brace, a line end or the end of the text. -/
theorem expectSemi_implied (h : t.isMark ";" = false) (hend : t.isEof ∨ t.isMark "\x7d" ∨ nl) :
    Does Parse.expectSemi ((t, nl) :: ts) w () ((t, nl) :: ts) w := by
  refine (isPunct ";").bind ?_
  rw [h, if_neg (by simp)]
  refine isEof.bind ((isPunct "\x7d").bind (get fun s hs => ?_))
  rw [if_pos (by simpa [hs.newline, or_assoc] using hend)]
  exact pure _ _ _

theorem expectSemi : Does Parse.expectSemi ((.punct ";", nl) :: (u, nl') :: ts) w ()
    ((u, nl') :: ts) w := by
  refine (isPunct ";").bind ?_
  rw [show Token.isMark (.punct ";") ";" = true from rfl, if_pos rfl]
  exact next

/-! ## Writing -/

theorem updateFn {f : FunctionState → FunctionState} (F : FunctionState → FunctionState)
    (h : ∀ g, (f g).bare = F g.bare)
    (hplain : ∀ g, g.IsPlain → (f g).IsPlain) :
    Does (Parse.updateFn f) ts w () ts { w with fn := F w.fn } :=
  fun s hs => ⟨_, rfl, hs.withFn (by rw [h, hs.fn]) (hplain _ hs.plain)⟩

/-- A change that does not look at positions. -/
theorem update (f : FunctionState → FunctionState) (h : ∀ g, (f g).bare = f g.bare)
    (hplain : ∀ g, g.IsPlain → (f g).IsPlain) :
    Does (Parse.updateFn f) ts w () ts { w with fn := f w.fn } := updateFn f h hplain

theorem markColumn (n : Nat) : Does (Parse.markColumn n) ts w () ts w :=
  updateFn (fun f => f) (fun _ => rfl) fun _ h => ⟨h.strict, h.kind, h.form⟩

theorem markToken : Does Parse.markToken ts w () ts w := tokenColumn fun n => markColumn n

theorem emit (i : Instr) : Does (Parse.emit i) ts w () ts (w.append [i] [] true) := by
  intro s hs
  refine ⟨_, rfl, hs.withFn ?_ ⟨hs.plain.strict, hs.plain.kind, hs.plain.form⟩⟩
  simp [← hs.fn, FunctionState.append, FunctionState.bare, Code.bare]

end Does

/-- What was written last is no reference any more. -/
def Writing.settle (w : Writing) : Writing := { w with fn := { w.fn with lastOp := none } }

@[simp] theorem Writing.settle_append (w : Writing) (is : List Instr) (ls : List Nat) (b : Bool) :
    w.settle.append is ls b = w.append is ls b := rfl

@[simp] theorem Writing.append_settle (w : Writing) (is : List Instr) (ls : List Nat) (b : Bool) :
    (w.append is ls b).settle = w.append is ls false := rfl

namespace Does

variable {β : Type} {ts ts₂ : Tokens} {w w₂ : Writing} {b : β} {i : Instr} {ls : List Nat}

theorem settle : Does Parse.settle ts w () ts w.settle :=
  update (fun f => { f with lastOp := none }) (fun _ => rfl) fun _ h => ⟨h.strict, h.kind, h.form⟩

theorem lastInstr : Does Parse.lastInstr ts (w.append [i] ls true) (some i) ts
    (w.append [i] ls true) := by
  refine fn (fun _ => rfl) ?_
  have hlast : ((w.append [i] ls true).fn.lastOp.bind fun j => (w.append [i] ls true).fn.code.instrs[j]?)
      = some i := by
    simp [FunctionState.append]
  rw [hlast]
  exact pure _ _ _

theorem lastInstr_settled (h : w.fn.lastOp = none) : Does Parse.lastInstr ts w none ts w := by
  refine fn (fun _ => rfl) ?_
  rw [h]
  exact pure _ _ _

theorem unwrite : Does Parse.unwrite ts (w.append [i] [] true) () ts w.settle := by
  have hpop : w.settle = { w.append [i] [] true with fn :=
      { (w.append [i] [] true).fn with
        lastOp := none
        code := { (w.append [i] [] true).fn.code with
          instrs := (w.append [i] [] true).fn.code.instrs.pop } } } := by
    simp [FunctionState.append, Writing.settle, Writing.append]
  rw [hpop]
  exact updateFn (fun f => { f with
    lastOp := none, code := { f.code with instrs := f.code.instrs.pop } }) (fun _ => rfl) fun _ h => ⟨h.strict, h.kind, h.form⟩

/-! ## References -/

/-- A name that was read is assigned to instead. -/
theorem takeLValue_var {n : String} {keep : Bool} {error : String} :
    Does (Parse.takeLValue keep error) ts (w.append [.getVar n] [] true) (.var n) ts
      (w.append ([.checkVar n] ++ if keep then [.getVar n] else []) [] true) := by
  refine lastInstr.bind (isStrict.bind ?_)
  rw [if_neg (by simp)]
  refine unwrite.bind ((emit _).bind ?_)
  cases keep with
  | false => simpa using pure _ _ _
  | true =>
    rw [if_pos rfl]
    refine (emit _).bind ?_
    simpa using pure _ _ _

theorem putKeepTop_var (n : String) : Does (Parse.putKeepTop (.var n)) ts w () ts
    (w.append [.dup, .putVar n] [] true) :=
  (emit .dup).bind (by simpa [putLValue] using emit (w := w.append [.dup] [] true) (.putVar n))

end Does

/-! ## Labels -/

namespace Does

variable {ts : Tokens} {w : Writing} {is : List Instr} {ls : List Nat} {b : Bool}

theorem newLabel : Does Parse.newLabel ts (w.append is ls b) (w.fn.code.labels.size + ls.length) ts
    (w.append is (ls ++ [0]) b) := by
  refine fn (fun _ => rfl) ?_
  have hpush : w.append is (ls ++ [0]) b = { w.append is ls b with fn :=
      { (w.append is ls b).fn with code := { (w.append is ls b).fn.code with
          labels := (w.append is ls b).fn.code.labels.push 0 } } } := by
    simp [FunctionState.append, Writing.append]
  rw [hpush]
  refine (update (fun f => { f with code := { f.code with labels := f.code.labels.push 0 } })
    (fun _ => rfl) fun _ h => ⟨h.strict, h.kind, h.form⟩).bind ?_
  simpa using pure _ _ _

/-- A label is put after what was written. -/
theorem placeLabel (ts : Tokens) (w : Writing) (is : List Instr) (ls : List Nat) (b : Bool) (j : Nat) :
    Does (Parse.placeLabel (w.fn.code.labels.size + j)) ts
    (w.append is ls b) () ts
    (w.append is (ls.set j (w.fn.code.instrs.size + is.length)) false) := by
  have hplace : w.append is (ls.set j (w.fn.code.instrs.size + is.length)) false
      = { w.append is ls b with fn :=
        { (w.append is ls b).fn with
          lastOp := none
          code := { (w.append is ls b).fn.code with
            labels := (w.append is ls b).fn.code.labels.setIfInBounds (w.fn.code.labels.size + j)
              (w.append is ls b).fn.code.instrs.size } } } := by
    simp [FunctionState.append, Writing.append, Array.setIfInBounds_append_right]
  rw [hplace]
  exact update (fun f => { f with
    lastOp := none
    code := { f.code with
      labels := f.code.labels.setIfInBounds (w.fn.code.labels.size + j) f.code.instrs.size } })
    (fun g => by simp [FunctionState.bare, Code.bare]) fun _ h => ⟨h.strict, h.kind, h.form⟩

end Does

/-! ## Repetition -/

/-- A step that answers `true` some times and then `false`. -/
inductive Rounds (step : Parse Bool) : Nat → Tokens → Writing → Tokens → Writing → Prop where
  | last {ts ts' : Tokens} {w w' : Writing} :
    Does step ts w false ts' w' → Rounds step 0 ts w ts' w'
  | more {n : Nat} {ts ts₁ ts' : Tokens} {w w₁ w' : Writing} :
    Does step ts w true ts₁ w₁ → Rounds step n ts₁ w₁ ts' w' → Rounds step (n + 1) ts w ts' w'

namespace Does

variable {step : Parse Bool} {n : Nat} {ts ts' : Tokens} {w w' : Writing}

theorem repeatWith (h : Rounds step n ts w ts' w') {fuel : Nat} (hfuel : n < fuel) :
    Does (Parse.repeatWith step fuel) ts w () ts' w' := by
  induction h generalizing fuel with
  | last hstep =>
    obtain ⟨fuel, rfl⟩ : ∃ m, fuel = m + 1 := ⟨fuel - 1, by omega⟩
    exact hstep.bind (pure _ _ _)
  | more hstep _ ih =>
    obtain ⟨fuel, rfl⟩ : ∃ m, fuel = m + 1 := ⟨fuel - 1, by omega⟩
    exact hstep.bind (ih (by omega))

/-- The bound on repetitions is as great as the number of tokens. -/
theorem length_le {s : ParserState} (hs : Shows s ts w) : ts.length ≤ s.size + 2 := by
  obtain ⟨later, rfl, hfollow⟩ := hs.present
  have hroom := hs.room
  cases hlater : later with
  | nil => simp
  | cons t later =>
    have hlength := (hfollow (by simp [hlater])).length_le
    rw [hlater] at hlength
    simp at hlength ⊢
    omega

theorem repeatStep (h : Rounds step n ts w ts' w') (hn : n < ts.length) :
    Does (Parse.repeatStep step) ts w () ts' w' :=
  get fun _ hs => repeatWith h (Nat.lt_of_lt_of_le hn (length_le hs))

/-- A step that is taken once. -/
theorem repeatOnce (h : Does step ts w false ts' w') (hts : ts ≠ []) :
    Does (Parse.repeatStep step) ts w () ts' w' :=
  repeatStep (.last h) (List.length_pos_iff.mpr hts)

end Does

end ScriptHost.ProtoScript
