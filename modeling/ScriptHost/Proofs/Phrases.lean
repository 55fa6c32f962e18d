import ScriptHost.Proofs.Parsing

/-!
# What productions of expressions do

One rule for each production of expressions that generated code needs, from names and literals up to
assignments.

* `scanCalm` — looking beyond a bracketed group, on tokens.
* `Token.closes`, `Token.parts` — what may stand behind an expression without commas, and behind an operand.
* `Does.primary_string`, `Does.accesses_call`, `Does.operand`, `Does.assignment_name` and others — the rules.
-/

namespace ScriptHost.ProtoScript

open Parse

/-! ## Looking beyond a group -/

/-- Whether a token can be passed without looking at its characters again. -/
def Token.isCalm : Token → Bool
  | .template _ _ | .eof => false
  | .punct p => p != "/" && p != "/="
  | _ => true

/-- What a token says of the group that it stands in, with so many brackets open. -/
def Parse.BracketBits.see (bits : BracketBits) (depth : Nat) : Token → BracketBits
  | .punct p =>
    if p == ";" then { bits with semicolon := bits.semicolon || depth == 1 }
    else if p == "..." then { bits with ellipsis := bits.ellipsis || depth == 1 }
    else if p == "=" then { bits with assignment := true }
    else bits
  | _ => bits

/-- The brackets that are open after a token; `none` for one that closes no open bracket. -/
def openAfter (open0 : List String) : Token → Option (List String)
  | .punct p =>
    if p == "(" || p == "[" || p == "\x7b" then some (closerOf p :: open0)
    else if p == ")" || p == "]" || p == "\x7d" then
      match open0 with
      | [] => none
      | c :: rest => if c == p then some rest else none
    else some open0
  | _ => some open0

/-- The token after a group of calm tokens, with whether a line ends before it, and what stands in the
group; `none` if the group does not end. -/
def scanCalm : List String → BracketBits → Tokens → Option ((Token × Bool) × BracketBits)
  | _, _, [] => none
  | open0, bits, (t, _) :: ts =>
    if !t.isCalm then none
    else match openAfter open0 t with
      | none => none
      | some [] => ts.head?.map (·, bits.see open0.length t)
      | some open1 => scanCalm open1 (bits.see open0.length t) ts

theorem token_apply {s : ParserState} {t : Token} {nl : Bool} {ts : Tokens} {w : Writing}
    (hs : Shows s ((t, nl) :: ts) w) : token s = .ok t s := by
  rw [← hs.token]
  rfl

/-- Passing the present token while looking ahead. -/
def scanPast (fuel : Nat) (open0 : List String) (bits : BracketBits) :
    Parse (Option Token × BracketBits) := do
  let last ← token
  match ← (try some <$> next catch _ => pure none) with
  | none => return (none, bits)
  | some _ => if open0.isEmpty then return (some (← token), bits) else scanFrom fuel open0 last bits

/-- A calm token is passed while looking ahead. -/
theorem scanFrom_step {s : ParserState} {t : Token} {nl : Bool} {ts : Tokens} {w : Writing}
    {open0 open1 : List String} {bits : BracketBits} {fuel : Nat} {last : Token}
    (hs : Shows s ((t, nl) :: ts) w) (hcalm : t.isCalm) (hopen : openAfter open0 t = some open1) :
    scanFrom (fuel + 1) open0 last bits s = scanPast fuel open1 (bits.see open0.length t) s := by
  rw [scanFrom, bind_apply, token_apply hs]
  cases t with
  | punct p =>
    simp only [Token.isCalm, Bool.and_eq_true, bne_iff_ne] at hcalm
    simp only [openAfter] at hopen
    simp only [BracketBits.see]
    split at hopen
    · next h =>
      cases hopen
      simp only [h, if_true]
      have hsee : (p == ";") = false ∧ (p == "...") = false ∧ (p == "=") = false := by
        simp only [Bool.or_eq_true, beq_iff_eq] at h
        rcases h with (rfl | rfl) | rfl <;> decide
      simp only [hsee, Bool.false_eq_true, if_false]
      rfl
    · next h =>
      split at hopen
      · next h' =>
        have hsee : (p == ";") = false ∧ (p == "...") = false ∧ (p == "=") = false := by
          simp only [Bool.or_eq_true, beq_iff_eq] at h'
          rcases h' with (rfl | rfl) | rfl <;> decide
        cases open0 with
        | nil => cases hopen
        | cons c rest =>
          simp only [Option.ite_none_right_eq_some, Option.some.injEq] at hopen
          obtain ⟨hc, rfl⟩ := hopen
          simp only [h, h', hsee, hc, Bool.false_eq_true, if_false, if_true]
          rfl
      · next h' =>
        cases hopen
        simp only [h, h', Bool.false_eq_true, if_false]
        split
        · rfl
        · split
          · rfl
          · split
            · rfl
            · simp only [beq_eq_false_iff_ne.mpr hcalm.1, beq_eq_false_iff_ne.mpr hcalm.2, Bool.or_self,
                Bool.false_and, Bool.false_eq_true, if_false]
              rfl
  | eof => cases hcalm
  | template _ _ => cases hcalm
  | _ =>
    cases hopen
    rfl

/-- Looking ahead from a token to the one after its group. -/
theorem scanFrom_calm {ts : Tokens} {w : Writing} {open0 : List String} {bits bits' : BracketBits}
    {t : Token} {nl : Bool} (h : scanCalm open0 bits ts = some ((t, nl), bits')) {fuel : Nat}
    (hfuel : ts.length ≤ fuel) (last : Token) {s : ParserState} (hs : Shows s ts w) :
    ∃ s', scanFrom fuel open0 last bits s = .ok (some t, bits') s' ∧ s'.newline = nl := by
  induction ts generalizing open0 bits fuel last s with
  | nil => cases h
  | cons first ts ih =>
    obtain ⟨u, nl₁⟩ := first
    obtain ⟨fuel, rfl⟩ : ∃ n, fuel = n + 1 := ⟨fuel - 1, by simp at hfuel; omega⟩
    have hcalm : u.isCalm := by
      by_contra hno
      simp [scanCalm, hno] at h
    simp only [scanCalm, hcalm, Bool.not_true, Bool.false_eq_true, if_false] at h
    cases hopen : openAfter open0 u with
    | none => simp [hopen] at h
    | some open1 =>
      have hpass : ts ≠ [] := by
        rintro rfl
        cases open1 <;> simp [hopen, scanCalm] at h
      obtain ⟨v, ts, rfl⟩ := List.exists_cons_of_ne_nil hpass
      obtain ⟨s₁, hnext, hs₁⟩ := (Does.next.map (f := some)).tryCatch (h := fun _ => pure none) s hs
      rw [scanFrom_step hs hcalm hopen, scanPast, bind_apply, token_apply hs]
      simp only [bind_apply]
      rw [show ((tryCatch (some <$> next) fun _ => pure none : Parse (Option Unit)) s) = _ from hnext]
      cases open1 with
      | nil =>
        simp only [hopen, List.head?_cons, Option.map_some, Option.some.injEq, Prod.mk.injEq] at h
        obtain ⟨rfl, rfl⟩ := h
        exact ⟨s₁, by simp [bind_apply, token_apply hs₁, pure_apply], hs₁.newline⟩
      | cons c rest =>
        rw [hopen] at h
        exact ih h (by simpa using hfuel) _ hs₁

/-- Nothing is passed by looking ahead. -/
theorem Does.scanBrackets {ts : Tokens} {w : Writing} {bits : BracketBits} {t : Token} {nl : Bool}
    (sameLine : Bool) (h : scanCalm [] {} ts = some ((t, nl), bits)) :
    Does (Parse.scanBrackets sameLine) ts w (if sameLine && nl then none else some t, bits) ts w := by
  refine get fun s hs => ?_
  intro s₀ hs₀
  obtain ⟨s', hscan, hnl⟩ := scanFrom_calm h (length_le hs) _ hs₀
  refine ⟨s, ?_, hs⟩
  rw [bind_apply, hscan]
  simp [bind_apply, map_apply, get_apply, set_apply, hnl]

/-! ## Tokens of phrases -/

/-- Whether an operand of the phrases below starts with a token. -/
def Token.starts : Token → Bool
  | .ident _ _ _ | .string _ | .number _ => true
  | .keyword k => k == "null" || k == "function"
  | .punct p => p == "(" || p == "\x7b"
  | _ => false

/-- Punctuation behind an operand that no operator follows. -/
def closers : List String := ["=", "+=", ",", ";", ":", ")"]

/-- Punctuation between the operands of operators. -/
def joiners : List String := ["+", "==", "||", "?"]

/-- Whether an operand is complete before a token, and no operator follows. -/
def Token.closes : Token → Bool
  | .punct p => closers.contains p
  | .eof => true
  | _ => false

/-- Whether an expression without commas is complete before a token. -/
def Token.ends (t : Token) : Bool := t.closes && !t.isMark "=" && !t.isMark "+="

/-- Whether a name before a token is neither a parameter of an arrow function nor the mark of one. -/
def Token.isParted : Token → Bool
  | .punct p => p != "(" && p != "=>"
  | _ => false

/-- Whether an operand is complete before a token. -/
def Token.parts : Token → Bool
  | .punct p => (closers ++ joiners).contains p
  | .eof => true
  | _ => false

/-- A property of the tokens behind operands is checked one by one. -/
theorem Token.closes_all {q : Token → Bool} (hmarks : closers.all fun p => q (.punct p)) (heof : q .eof) {t : Token}
    (h : t.closes) : q t := by
  cases t with
  | punct p => exact List.all_eq_true.mp hmarks p (by simpa [Token.closes] using h)
  | eof => exact heof
  | _ => cases h

theorem Token.parts_all {q : Token → Bool} (hmarks : (closers ++ joiners).all fun p => q (.punct p)) (heof : q .eof)
    {t : Token} (h : t.parts) : q t := by
  cases t with
  | punct p => exact List.all_eq_true.mp hmarks p (by simpa [Token.parts] using h)
  | eof => exact heof
  | _ => cases h

theorem Token.parts_of_closes {t : Token} (h : t.closes) : t.parts :=
  Token.closes_all (q := Token.parts) (by decide) rfl h

theorem Token.closes_of_ends {t : Token} (h : t.ends) : t.closes := by
  simp only [Token.ends, Bool.and_eq_true] at h
  exact h.1.1

theorem operatorAt_closes {u : Token} (hu : u.closes) (level : Nat) : operatorAt level true u = none := by
  rw [← Option.isNone_iff_eq_none]
  match level with
  | 0 | 1 | 2 | 3 | 4 | 5 | 6 | 7 | 8 =>
    exact Token.closes_all (q := fun u => (operatorAt _ true u).isNone) (by decide) rfl hu
  | _ + 9 => rfl

namespace Does

variable {g : Grammar} {ts ts' ts₁ ts₂ : Tokens} {w w' w₁ w₂ : Writing} {t u v : Token} {t₁ : Token × Bool}
  {nl nl' nl₁ nl₂ : Bool}

/-! ## Primary expressions -/

theorem primary_string (v : Text.Units) :
    Does (primary g) ((.string v, nl) :: (u, nl') :: ts) w (.plain, false) ((u, nl') :: ts)
      (w.append [.push (.str v)] [] true) := by
  refine markToken.bind (get fun s hs => ?_)
  rw [hs.token]
  exact (emit _).bind (next.bind (pure _ _ _))

theorem primary_number (x : Float) :
    Does (primary g) ((.number x, nl) :: (u, nl') :: ts) w (.plain, false) ((u, nl') :: ts)
      (w.append [.push (.num x)] [] true) := by
  refine markToken.bind (get fun s hs => ?_)
  rw [hs.token]
  exact (emit _).bind (next.bind (pure _ _ _))

theorem primary_null :
    Does (primary g) ((.keyword "null", nl) :: (u, nl') :: ts) w (.plain, false) ((u, nl') :: ts)
      (w.append [.push .null] [] true) := by
  refine markToken.bind (get fun s hs => ?_)
  rw [hs.token]
  exact (emit _).bind (next.bind (pure _ _ _))

/-- Reading a name, once the function knows that it needs `arguments`. -/
theorem identifier_rest {n : String} (hu : u.isWord "function" = false) :
    Does (do
        let start := (← MonadState.get).start
        if (← Parse.isName "async") && !(← Lexer.peek).2 then
          Parse.next
          if ← Parse.isKeyword "function" then
            let code ← g.function .expression .async start
            Parse.emit (.closure code)
            Parse.emit (.setName "")
          else Parse.emit (.getVar n)
        else
          Parse.next
          Parse.emit (.getVar n)) ((.ident n false false, nl) :: (u, nl') :: ts) w ()
      ((u, nl') :: ts) (w.append [.getVar n] [] true) := by
  refine get fun s hs => (isName "async").bind (peek.bind ?_)
  split
  · refine next.bind ((isKeyword "function").bind ?_)
    rw [hu, if_neg (by simp)]
    exact emit _
  · exact next.bind (emit _)

theorem primary_ident {n : String} (harguments : n ≠ "arguments") (hu : u.isWord "function" = false) :
    Does (primary g) ((.ident n false false, nl) :: (u, nl') :: ts) w (.plain, false)
      ((u, nl') :: ts) (w.append [.getVar n] [] true) := by
  refine markToken.bind (get fun s hs => ?_)
  rw [hs.token]
  refine bind (a := ()) ?_ (pure _ _ _)
  unfold identifier
  rw [if_neg (by simp), if_neg (by simpa using harguments)]
  exact identifier_rest hu

/-- The name `arguments` marks the function. -/
def withArguments (w : Writing) : Writing :=
  { w with fn := { w.fn with code := { w.fn.code with usesArguments := true } } }

theorem primary_arguments (hallowed : w.fn.argumentsAllowed) (hu : u.isWord "function" = false) :
    Does (primary g) ((.ident "arguments" false false, nl) :: (u, nl') :: ts) w (.plain, false)
      ((u, nl') :: ts) ((withArguments w).append [.getVar "arguments"] [] true) := by
  refine markToken.bind (get fun s hs => ?_)
  rw [hs.token]
  refine bind (a := ()) ?_ (pure _ _ _)
  unfold identifier
  rw [if_neg (by simp), if_pos (by simp)]
  refine fn (fun _ => rfl) ?_
  rw [hallowed, if_neg (by simp)]
  have huse : Does useArguments ((.ident "arguments" false false, nl) :: (u, nl') :: ts) w ()
      ((.ident "arguments" false false, nl) :: (u, nl') :: ts) (withArguments w) :=
    update _ (fun _ => rfl) fun _ h => ⟨h.strict, h.kind, h.form⟩
  exact huse.bind (identifier_rest hu)

/-- A group in parentheses is what stands in it. -/
theorem primary_group (h : Does (g.expression true) ((u, nl') :: ts) w () ((.punct ")", nl₁) :: t₁ :: ts₁) w₁) :
    Does (primary g) ((.punct "(", nl) :: (u, nl') :: ts) w (.plain, false) (t₁ :: ts₁) w₁ := by
  refine markToken.bind (get fun s hs => ?_)
  rw [hs.token]
  exact ((expect rfl).bind (h.bind (expect rfl))).bind (pure _ _ _)

/-- An object literal without properties. -/
theorem primary_object (h : u.isMark "=" = false) :
    Does (primary g) ((.punct "\x7b", nl) :: (.punct "\x7d", nl₁) :: (u, nl') :: ts) w (.plain, false)
      ((u, nl') :: ts) (w.append [.newObject] [] true) := by
  refine markToken.bind (get fun s hs => ?_)
  rw [hs.token]
  refine (scanBrackets false rfl).bind ?_
  dsimp only
  rw [Bool.false_and, if_neg Bool.false_ne_true, show Token.isPunct (some u) "=" = false from h,
    if_neg Bool.false_ne_true, if_neg (by simp)]
  refine bind (a := ()) ?_ (pure _ _ _)
  refine next.bind ((emit _).bind (get fun s hs => ?_))
  exact bind (a := ()) ((isPunct _).bind (pure _ _ _)) (expect rfl)

/-! ## Accesses and calls -/

/-- Behind an operand there is nothing to access. -/
theorem accesses_none (fuel column : Nat) (h : t.parts) :
    Does (accesses g true fuel .plain true none column) ((t, nl) :: ts) w none ((t, nl) :: ts) w := by
  cases fuel with
  | zero => exact pure _ _ _
  | succ fuel =>
    refine token ?_
    cases t with
    | punct p =>
      simp only [Token.parts, closers, joiners, List.cons_append, List.nil_append, List.contains_cons,
        List.contains_nil, Bool.or_eq_true, beq_iff_eq, Bool.or_false] at h
      rcases h with rfl | rfl | rfl | rfl | rfl | rfl | rfl | rfl | rfl | rfl <;> exact pure _ _ _
    | eof => exact pure _ _ _
    | _ => cases h

/-- Whether an instruction reads a variable or a property by its name. -/
def readsName : Instr → Bool
  | .getVar _ | .getField _ => true
  | _ => false

theorem fieldAccess {β : Type} {b : β} {i : Instr} {n : String} (hi : readsName i)
    {k : Option Nat × Nat → Parse β}
    (hk : ∀ column, Does (k (none, column)) ((u, nl') :: ts)
      (w.append [i, .getField n] [] true) b ts₂ w₂) :
    Does (Parse.fieldAccess none false >>= k) ((.ident n false false, nl) :: (u, nl') :: ts)
      (w.append [i] [] true) b ts₂ w₂ := by
  refine assoc (tokenColumn fun column => bind (a := (none, column)) ?_ (hk column))
  refine lastInstr.bind (token ?_)
  refine bind (a := some n) (token (pure _ _ _)) ?_
  have hwrite : Does (do
      Parse.markColumn column
      Parse.emit (.getField n)
      Parse.next
      Pure.pure (none, column)) ((.ident n false false, nl) :: (u, nl') :: ts) (w.append [i] [] true)
      ((none : Option Nat), column) ((u, nl') :: ts) (w.append [i, .getField n] [] true) := by
    rw [show w.append [i, .getField n] [] true = (w.append [i] [] true).append [.getField n] [] true
      by simp]
    exact (markColumn column).bind ((emit _).bind (next.bind (pure _ _ _)))
  cases i with
  | getVar m => exact hwrite
  | getField m => exact hwrite
  | _ => cases hi

/-- A property of a variable or of a property. -/
theorem accesses_field {fuel column : Nat} {i : Instr} {n : String} (hi : readsName i)
    (h : ∀ column, Does (accesses g true fuel .plain true none column) ((u, nl') :: ts)
      (w.append [i, .getField n] [] true) none ts₂ w₂) :
    Does (accesses g true (fuel + 1) .plain true none column)
      ((.punct ".", nl) :: (.ident n false false, nl₁) :: (u, nl') :: ts) (w.append [i] [] true)
      none ts₂ w₂ :=
  token (next.bind (fieldAccess hi h))

/-- A call of a method with arguments. -/
theorem accesses_method {fuel column : Nat} {i : Instr} {n : String} {k : Nat}
    (hargs : ∀ {bound}, 2 ≤ bound → Does (plainArguments g bound 0) ((u, nl') :: ts)
      (w.append [i, .getFieldKeep n] [] true) (k, false) ((.punct ")", nl₁) :: t₁ :: ts₁) w₁)
    (hrest : Does (accesses g true fuel .plain true none column) (t₁ :: ts₁)
      (w₁.append [.callMethod k] [] true) none ts₂ w₂) :
    Does (accesses g true (fuel + 1) .plain true none column)
      ((.punct "(", nl) :: (u, nl') :: ts) (w.append [i, .getField n] [] true) none ts₂ w₂ := by
  refine token ?_
  have hprepare : Does (prepareCall false false) ((.punct "(", nl) :: (u, nl') :: ts)
      ((w.append [i] [] true).append [.getField n] [] true) .method ((.punct "(", nl) :: (u, nl') :: ts)
      ((w.append [i] [] true).append [.getFieldKeep n] [] true) :=
    lastInstr.bind (unwrite.bind ((emit _).bind (pure _ _ _)))
  rw [Writing.append_append, Writing.append_append] at hprepare
  have harguments : Does (arguments g) ((u, nl') :: ts) (w.append [i, .getFieldKeep n] [] true) (some k)
      (t₁ :: ts₁) w₁ :=
    get fun s _ => (hargs (Nat.le_add_left 2 s.size)).bind (next.bind (pure _ _ _))
  have hcall : Does (finishCall g .plain .method column) ((u, nl') :: ts)
      (w.append [i, .getFieldKeep n] [] true) () (t₁ :: ts₁) (w₁.append [.callMethod k] [] true) :=
    (pure _ _ _).bind (harguments.bind ((markColumn column).bind ((emit _).bind (pure _ _ _))))
  exact hprepare.bind ((pure _ _ _).bind (next.bind (hcall.bind hrest)))

/-- A call of a value that is no reference. -/
theorem accesses_call {fuel column n : Nat} (hlast : w.fn.lastOp = none)
    (hargs : ∀ {bound}, 2 ≤ bound →
      Does (plainArguments g bound 0) ((u, nl') :: ts) w (n, false) ((.punct ")", nl₁) :: t₁ :: ts₁) w₁)
    (hrest : Does (accesses g true fuel .plain true none column) (t₁ :: ts₁) (w₁.append [.call n] [] true)
      none ts₂ w₂) :
    Does (accesses g true (fuel + 1) .plain true none column) ((.punct "(", nl) :: (u, nl') :: ts) w
      none ts₂ w₂ := by
  refine token ?_
  have hprepare : Does (prepareCall false false) ((.punct "(", nl) :: (u, nl') :: ts) w .bare
      ((.punct "(", nl) :: (u, nl') :: ts) w := (lastInstr_settled hlast).bind (pure _ _ _)
  have harguments : Does (arguments g) ((u, nl') :: ts) w (some n) (t₁ :: ts₁) w₁ :=
    get fun s _ => (hargs (Nat.le_add_left 2 s.size)).bind (next.bind (pure _ _ _))
  have hcall : Does (finishCall g .plain .bare column) ((u, nl') :: ts) w () (t₁ :: ts₁)
      (w₁.append [.call n] [] true) :=
    (pure _ _ _).bind (harguments.bind ((markColumn column).bind ((emit _).bind (pure _ _ _))))
  exact hprepare.bind ((pure _ _ _).bind (next.bind (hcall.bind hrest)))

theorem plainArguments_last {bound n : Nat} (ht : t.isMark ")" = false) (hspread : t.isMark "..." = false)
    (h : Does (g.assign true) ((t, nl) :: ts) w () ((.punct ")", nl') :: ts₁) w₁) :
    Does (plainArguments g (bound + 1) n) ((t, nl) :: ts) w (n + 1, false)
      ((.punct ")", nl') :: ts₁) w₁ := by
  refine (isPunct ")").bind ?_
  rw [ht, if_neg (by simp)]
  refine (isPunct "...").bind ?_
  rw [hspread, if_neg (by simp)]
  exact h.bind ((isPunct ")").bind (pure _ _ _))

theorem plainArguments_more {bound n k : Nat} (ht : t.isMark ")" = false)
    (hspread : t.isMark "..." = false)
    (h : Does (g.assign true) ((t, nl) :: ts) w () ((.punct ",", nl') :: t₁ :: ts₁) w₁)
    (hrest : Does (plainArguments g bound (n + 1)) (t₁ :: ts₁) w₁ (k, false) ts₂ w₂) :
    Does (plainArguments g (bound + 1) n) ((t, nl) :: ts) w (k, false) ts₂ w₂ := by
  refine (isPunct ")").bind ?_
  rw [ht, if_neg (by simp)]
  refine (isPunct "...").bind ?_
  rw [hspread, if_neg (by simp)]
  exact h.bind ((isPunct ")").bind ((expect rfl).bind hrest))

theorem member {parens : Bool} (hp : Does (primary g) ts w (.plain, parens) ts₁ w₁)
    (ha : ∀ fuel column, ts₁.length ≤ fuel →
      Does (accesses g true fuel .plain true none column) ts₁ w₁ none ts₂ w₂) :
    Does (memberExpression g true) ts w () ts₂ w₂ :=
  tokenColumn fun column => hp.bind (get fun _ hs =>
    bind (a := none) (ha _ column (length_le hs)) (pure _ _ _))

/-- A primary expression that nothing is accessed of. -/
theorem member_primary {parens : Bool}
    (hp : Does (primary g) ts w (.plain, parens) ((u, nl') :: ts₁) w₁) (hu : u.parts) :
    Does (memberExpression g true) ts w () ((u, nl') :: ts₁) w₁ :=
  member hp fun _ _ _ => accesses_none _ _ hu

/-- A variable that nothing is accessed of. -/
theorem member_variable {n : String} (hn : n ≠ "arguments") (hu : u.parts) :
    Does (memberExpression g true) ((.ident n false false, nl) :: (u, nl') :: ts) w () ((u, nl') :: ts)
      (w.append [.getVar n] [] true) := by
  have hfunction : u.isWord "function" = false := by
    cases u with
    | keyword k => cases hu
    | _ => rfl
  exact member_primary (primary_ident hn hfunction) hu

/-! ## Operators -/

theorem unaryBase (h : Does (memberExpression g true) ((t, nl) :: ts) w () ((u, nl') :: ts₁) w₁)
    (ht : t.starts) (hu : u.parts) :
    Does (Parse.unaryBase g .allowed) ((t, nl) :: ts) w .allowed ((u, nl') :: ts₁) w₁ := by
  have hplus : u.isMark "++" = false ∧ u.isMark "--" = false := by
    simpa using Token.parts_all (q := fun u => !u.isMark "++" && !u.isMark "--") (by decide) rfl hu
  have hrest : Does (do
      memberExpression g true
      if !(← MonadState.get).newline && ((← Parse.isPunct "++") || (← Parse.isPunct "--")) then
        let op := if ← Parse.isPunct "++" then UnaryOp.inc else .dec
        let l ← takeLValue true "invalid increment/decrement operand"
        Parse.emit (.unary .numeric)
        Parse.emit .dup
        Parse.emit (.unary op)
        putKeepSecond l
        Parse.next
      return PowerRule.allowed) ((t, nl) :: ts) w .allowed ((u, nl') :: ts₁) w₁ := by
    refine h.bind (get fun _ _ => (isPunct "++").bind ((isPunct "--").bind ?_))
    rw [hplus.1, hplus.2, Bool.or_self, Bool.and_false, if_neg (by simp)]
    exact pure _ _ _
  refine token ?_
  cases t with
  | ident _ _ _ => exact hrest
  | string _ => exact hrest
  | number _ => exact hrest
  | keyword k =>
    simp only [Token.starts, Bool.or_eq_true, beq_iff_eq] at ht
    rcases ht with rfl | rfl <;> exact hrest
  | punct p =>
    simp only [Token.starts, Bool.or_eq_true, beq_iff_eq] at ht
    rcases ht with rfl | rfl <;> exact hrest
  | _ => cases ht

theorem unary (h : Does (memberExpression g true) ((t, nl) :: ts) w () ((u, nl') :: ts₁) w₁)
    (ht : t.starts) (hu : u.parts) :
    Does (unaryExpression g .allowed) ((t, nl) :: ts) w () ((u, nl') :: ts₁) w₁ := by
  have hpower : u.isMark "**" = false := by
    simpa using Token.parts_all (q := fun u => !u.isMark "**") (by decide) rfl hu
  refine (unaryBase h ht hu).bind ((isPunct "**").bind ?_)
  rw [hpower, Bool.and_false, if_neg (by simp)]
  exact pure _ _ _

/-- Operands joined by the operators of a level. -/
theorem binary_chain {level n : Nat} (ht : t.starts)
    (h : Does (binaryExpression g true level) ((t, nl) :: ts) w () ts₁ w₁)
    (hrounds : Rounds (binaryRound true (level + 1) (binaryExpression g true level)) n ts₁ w₁ ts₂ w₂)
    (hn : n < ts₁.length) : Does (binaryExpression g true (level + 1)) ((t, nl) :: ts) w () ts₂ w₂ := by
  refine token ?_
  cases t with
  | privateName _ => cases ht
  | _ => exact h.bind (repeatStep hrounds hn)

/-- A round of operators of a level: one more operand. -/
theorem binaryRound_operand {level : Nat} {op : BinaryOp} (ht : operatorAt (level + 1) true t = some op)
    (h : Does (binaryExpression g true level) ((u, nl') :: ts) w () ts₁ w₁) :
    Does (binaryRound true (level + 1) (binaryExpression g true level)) ((t, nl) :: (u, nl') :: ts) w true ts₁
      (w₁.append [.binary op] [] true) := by
  refine token ?_
  rw [ht]
  exact next.bind (h.bind ((emit _).bind (pure _ _ _)))

theorem binaryRound_none {level : Nat} {operand : Parse Unit} (hu : operatorAt level true u = none) :
    Does (binaryRound true level operand) ((u, nl) :: ts) w false ((u, nl) :: ts) w := by
  refine token ?_
  rw [hu]
  exact pure _ _ _

/-- Operators of the levels up to another are absent. -/
theorem binary_upTo {low high : Nat} (hle : low ≤ high) (ht : t.starts)
    (hu : ∀ level, low < level → level ≤ high → operatorAt level true u = none)
    (h : Does (binaryExpression g true low) ((t, nl) :: ts) w () ((u, nl') :: ts₁) w₁) :
    Does (binaryExpression g true high) ((t, nl) :: ts) w () ((u, nl') :: ts₁) w₁ := by
  induction high with
  | zero =>
    obtain rfl : low = 0 := Nat.le_zero.mp hle
    exact h
  | succ high ih =>
    by_cases hlow : low = high + 1
    · exact hlow ▸ h
    · have hbelow := ih (by omega) fun level hlevel hle => hu level hlevel (by omega)
      exact binary_chain ht hbelow (.last (binaryRound_none (hu _ (by omega) (Nat.le_refl _)))) (by simp)

/-- Operands that no logical operator follows. -/
theorem coalesce (h : Does (binaryExpression g true 8) ts w () ((u, nl') :: ts₁) w₁)
    (hand : u.isMark "&&" = false) (hor : u.isMark "||" = false) (hnull : u.isMark "??" = false) :
    Does (coalesceExpression g true) ts w () ((u, nl') :: ts₁) w₁ := by
  have handExpression : Does (andExpression g true) ts w () ((u, nl') :: ts₁) w₁ := by
    refine h.bind ((isPunct "&&").bind ?_)
    rw [hand, if_neg (by simp)]
    exact pure _ _ _
  have horExpression : Does (orExpression g true) ts w () ((u, nl') :: ts₁) w₁ := by
    refine handExpression.bind ((isPunct "||").bind ?_)
    rw [hor, if_neg (by simp)]
    exact pure _ _ _
  refine horExpression.bind ((isPunct "??").bind ?_)
  rw [hnull, if_neg (by simp)]
  exact pure _ _ _

/-- Two operands joined by `||`. -/
theorem coalesce_or {is js : List Instr}
    (h : Does (binaryExpression g true 8) ts w () ((.punct "||", nl) :: (t, nl') :: ts')
      (w.append is [] true))
    (h' : ∀ w', Does (binaryExpression g true 8) ((t, nl') :: ts') w' () ((u, nl₁) :: ts₁)
      (w'.append js [] true))
    (hu : u.closes) :
    Does (coalesceExpression g true) ts w () ((u, nl₁) :: ts₁)
      (w.append (is ++ .dup :: .jumpTrue w.fn.code.labels.size :: .drop :: js)
        [w.fn.code.instrs.size + (is.length + (js.length + 3))] false) := by
  have hmarks : (u.isMark "&&" = false ∧ u.isMark "||" = false) ∧ u.isMark "??" = false := by
    simpa using Token.closes_all
      (q := fun u => !u.isMark "&&" && !u.isMark "||" && !u.isMark "??") (by decide) rfl hu
  have hleft : Does (andExpression g true) ts w () ((.punct "||", nl) :: (t, nl') :: ts')
      (w.append is [] true) := h.bind ((isPunct "&&").bind (pure _ _ _))
  have hright (w') : Does (andExpression g true) ((t, nl') :: ts') w' () ((u, nl₁) :: ts₁)
      (w'.append js [] true) := by
    refine (h' w').bind ((isPunct "&&").bind ?_)
    rw [hmarks.1.1, if_neg (by simp)]
    exact pure _ _ _
  have hor : Does (orExpression g true) ts w () ((u, nl₁) :: ts₁)
      (w.append (is ++ .dup :: .jumpTrue w.fn.code.labels.size :: .drop :: js)
        [w.fn.code.instrs.size + (is.length + (js.length + 3))] false) := by
    refine hleft.bind ((isPunct "||").bind ?_)
    rw [show Token.isMark (.punct "||") "||" = true from rfl, if_pos rfl]
    have hlast (w') : Does (do
        if ← Parse.isPunct "||" then return true
        if ← Parse.isPunct "??" then fail "cannot mix ?? with && or ||"
        return false) ((u, nl₁) :: ts₁) w' false ((u, nl₁) :: ts₁) w' := by
      refine (isPunct "||").bind ?_
      rw [hmarks.1.2, if_neg (by simp)]
      refine (isPunct "??").bind ?_
      rw [hmarks.2, if_neg (by simp)]
      exact pure _ _ _
    refine newLabel.bind (bind (repeatOnce (next.bind ((emit _).bind ((emit _).bind ((emit _).bind
      ((hright _).bind (hlast _)))))) (by simp)) ?_)
    simpa [Nat.add_assoc] using placeLabel _ w
      (is ++ .dup :: .jumpTrue w.fn.code.labels.size :: .drop :: js) [0] true 0
  refine hor.bind ((isPunct "??").bind ?_)
  rw [hmarks.2, if_neg (by simp)]
  exact pure _ _ _

theorem conditional_none (h : Does (coalesceExpression g true) ts w () ((u, nl') :: ts₁) w₁)
    (hu : u.isMark "?" = false) : Does (Parse.conditional g true) ts w () ((u, nl') :: ts₁) w₁ := by
  refine h.bind ((isPunct "?").bind ?_)
  rw [hu, if_neg (by simp)]
  exact pure _ _ _

/-- A condition and two values. -/
theorem conditional_choice {is js ks : List Instr} {b : Bool}
    (h : Does (coalesceExpression g true) ts w () ((.punct "?", nl) :: (t, nl') :: ts')
      (w.append is [] b))
    (h' : ∀ w', Does (g.assign true) ((t, nl') :: ts') w' ()
      ((.punct ":", nl₁) :: (v, nl₂) :: ts₁) (w'.append js [] true))
    (h'' : ∀ w', Does (g.assign true) ((v, nl₂) :: ts₁) w' () ts₂ (w'.append ks [] true)) :
    Does (Parse.conditional g true) ts w () ts₂
      (w.append (is ++ .jumpFalse w.fn.code.labels.size :: (js
          ++ .jump (w.fn.code.labels.size + 1) :: ks))
        [w.fn.code.instrs.size + (is.length + (js.length + 2)),
          w.fn.code.instrs.size + (is.length + (js.length + (ks.length + 2)))] false) := by
  refine h.bind ((isPunct "?").bind ?_)
  rw [show Token.isMark (.punct "?") "?" = true from rfl, if_pos rfl]
  refine next.bind (newLabel.bind (newLabel.bind ((emit _).bind ((h' _).bind ((expect rfl).bind
    ((emit _).bind ?_))))))
  have hfirst := placeLabel ((v, nl₂) :: ts₁) w
    (is ++ .jumpFalse w.fn.code.labels.size :: (js ++ [.jump (w.fn.code.labels.size + 1)]))
    [0, 0] true 0
  have hsecond := placeLabel ts₂ w
    (is ++ .jumpFalse w.fn.code.labels.size :: (js ++ .jump (w.fn.code.labels.size + 1) :: ks))
    [w.fn.code.instrs.size + (is.length + (js.length + 2)), 0] true 1
  have hmiddle := h'' (w.append (is ++ .jumpFalse w.fn.code.labels.size :: (js
    ++ [.jump (w.fn.code.labels.size + 1)]))
      [w.fn.code.instrs.size + (is.length + (js.length + 2)), 0] false)
  simp only [Writing.append_append, List.append_assoc, List.cons_append, List.nil_append,
    List.append_nil] at hmiddle
  simp only [Writing.append_append, List.append_assoc, List.cons_append, List.nil_append,
    List.append_nil, List.length_nil, List.length_cons, Nat.add_zero, Nat.zero_add]
  simp only [List.set_cons_zero, List.set_cons_succ, List.length_append, List.length_cons,
    List.length_nil, Nat.add_zero, Nat.zero_add, Nat.add_assoc, Nat.reduceAdd] at hfirst hsecond
  exact hfirst.bind (hmiddle.bind hsecond)

/-- An expression that no operator follows. -/
theorem operation {level : Nat} (hlevel : level ≤ 8) (ht : t.starts) (hu : u.closes)
    (h : Does (binaryExpression g true level) ((t, nl) :: ts) w () ((u, nl') :: ts₁) w₁) :
    Does (Parse.conditional g true) ((t, nl) :: ts) w () ((u, nl') :: ts₁) w₁ := by
  have hmark (p : String) (hp : closers.all fun q => !Token.isMark (.punct q) p) : u.isMark p = false := by
    simpa using Token.closes_all (q := fun u => !u.isMark p) hp rfl hu
  exact conditional_none (coalesce (binary_upTo hlevel ht (fun level _ _ => operatorAt_closes hu level) h)
    (hmark "&&" (by decide)) (hmark "||" (by decide)) (hmark "??" (by decide))) (hmark "?" (by decide))

/-- An operand that no operator follows. -/
theorem operand (ht : t.starts) (hu : u.closes)
    (h : Does (memberExpression g true) ((t, nl) :: ts) w () ((u, nl') :: ts₁) w₁) :
    Does (Parse.conditional g true) ((t, nl) :: ts) w () ((u, nl') :: ts₁) w₁ :=
  operation (Nat.zero_le 8) ht hu (unary h ht (Token.parts_of_closes hu))

/-! ## Assignments -/

theorem assignmentTail_none {name0 : Option String} (hu : u.ends) :
    Does (assignmentTail g name0 true) ((u, nl) :: ts) w () ((u, nl) :: ts) w := by
  refine token ?_
  cases u with
  | punct p =>
    simp only [Token.ends, Token.closes, closers, List.contains_cons, List.contains_nil, Bool.and_eq_true,
      Bool.or_eq_true, beq_iff_eq, Bool.or_false] at hu
    rcases hu with ⟨⟨rfl | rfl | rfl | rfl | rfl | rfl, heq⟩, hadd⟩
    · cases heq
    · cases hadd
    all_goals exact pure _ _ _
  | eof => exact pure _ _ _
  | _ => cases hu

/-- Whether an instruction waits for the name of a function. -/
def awaitsName : Instr → Bool
  | .setName n => n == ""
  | _ => false

theorem nameLast_named {i : Instr} (hi : awaitsName i = false) (n : String) :
    Does (nameLast n) ts (w.append [i] [] true) () ts (w.append [i] [] true) := by
  refine lastInstr.bind ?_
  cases i with
  | setName m =>
    split
    · next h =>
      cases h
      cases hi
    · exact pure _ _ _
  | _ => exact pure _ _ _

/-- A function without a name is given one. -/
theorem nameLast_unnamed (n : String) :
    Does (nameLast n) ts (w.append [.setName ""] [] true) () ts (w.append [.setName n] [] true) :=
  lastInstr.bind (unwrite.bind (emit _))

theorem assignmentTail_assign {n : String} {name0 : Option String} {i : Instr}
    (hi : awaitsName i = false)
    (h : Does (g.assign true) ((u, nl') :: ts) (w.append [.checkVar n] [] true) () ts₁
      (w₁.append [i] [] true)) :
    Does (assignmentTail g name0 true) ((.punct "=", nl) :: (u, nl') :: ts) (w.append [.getVar n] [] true)
      () ts₁ (w₁.append [i, .dup, .putVar n] [] true) := by
  refine token ?_
  dsimp only
  rw [if_pos (by simp)]
  refine next.bind (takeLValue_var.bind (bind (by simpa using h) ?_))
  rw [show w₁.append [i, .dup, .putVar n] [] true
    = (w₁.append [i] [] true).append [.dup, .putVar n] [] true by simp]
  dsimp only
  split
  · exact (nameLast_named hi n).bind (putKeepTop_var n)
  · exact putKeepTop_var n

theorem assignmentTail_add {n : String} {name0 : Option String}
    (h : Does (g.assign true) ((u, nl') :: ts) (w.append [.checkVar n, .getVar n] [] true) () ts₁ w₁) :
    Does (assignmentTail g name0 true) ((.punct "+=", nl) :: (u, nl') :: ts)
      (w.append [.getVar n] [] true) () ts₁ (w₁.append [.binary .add, .dup, .putVar n] [] true) := by
  refine token ?_
  dsimp only
  rw [if_neg (by simp), if_neg (by simp)]
  refine next.bind (takeLValue_var.bind (bind (by simpa using h) ((emit _).bind ?_)))
  simpa using putKeepTop_var (w := w₁.append [.binary .add] [] true) n

theorem atArrow_group {after : Token} {bits : BracketBits}
    (h : scanCalm [] {} ((.punct "(", nl) :: ts) = some ((after, nl'), bits))
    (ha : after.isMark "=>" = false) :
    Does atArrow ((.punct "(", nl) :: ts) w false ((.punct "(", nl) :: ts) w := by
  refine (isPunct "(").bind ?_
  rw [show Token.isMark (.punct "(") "(" = true from rfl, if_pos rfl]
  refine (scanBrackets true h).bind ?_
  have harrow : Token.isPunct (if true && nl' then none else some after) "=>" = false := by
    cases nl'
    · exact ha
    · rfl
  exact harrow ▸ pure _ _ _

theorem atArrow_name {n : String} (ha : u.isMark "=>" = false) :
    Does atArrow ((.ident n false false, nl) :: (u, nl') :: ts) w false
      ((.ident n false false, nl) :: (u, nl') :: ts) w := by
  refine (isPunct "(").bind ?_
  rw [show Token.isMark (.ident n false false) "(" = false from rfl, if_neg (by simp)]
  refine name?.bind ?_
  rw [if_pos (by simp [Token.name?])]
  rw [show false = (!(true && nl') && u.isMark "=>") by rw [ha, Bool.and_false]]
  exact peekPunct "=>" true

theorem atArrow_other (ht : t.isMark "(" = false) (hname : t.name? = none) :
    Does atArrow ((t, nl) :: ts) w false ((t, nl) :: ts) w := by
  refine (isPunct "(").bind ?_
  rw [ht, if_neg (by simp)]
  refine name?.bind ?_
  rw [hname, if_neg (by simp)]
  exact pure _ _ _

/-- The name that an assignment gives to a function. -/
def nameOf : Token → Option String
  | .ident n _ _ => some n
  | _ => none

theorem assignment_other {emitReturn : Parse Unit}
    (harrow : Does atArrow ((t, nl) :: ts) w false ((t, nl) :: ts) w) (ht : t.starts)
    (hname : nameOf t = none)
    (hvalue : Does (Parse.conditional g true) ((t, nl) :: ts) w () ts₁ w₁)
    (htail : Does (assignmentTail g none true) ts₁ w₁ () ts₂ w₂) :
    Does (Parse.assignment g emitReturn true) ((t, nl) :: ts) w () ts₂ w₂ := by
  have hplain : Does (do
      let name0 := match ← Parse.token with
        | .ident name _ _ => some name
        | _ => none
      Parse.conditional g true
      assignmentTail g name0 true) ((t, nl) :: ts) w () ts₂ w₂ := by
    refine token ?_
    cases t with
    | ident _ _ _ => cases hname
    | _ => exact hvalue.bind htail
  refine get fun s _ => (isKeyword "yield").bind ?_
  have hyield : t.isWord "yield" = false := by
    cases t with
    | keyword k =>
      simp only [Token.starts, Bool.or_eq_true, beq_iff_eq] at ht
      rcases ht with rfl | rfl <;> rfl
    | _ => rfl
  rw [hyield, if_neg (by simp)]
  refine (isPunct "(").bind (harrow.bind ?_)
  rw [Bool.and_false, if_neg (by simp)]
  refine (isName "async").bind ?_
  have hasync : t.isIdent "async" = false := by
    cases t with
    | ident _ _ _ => cases hname
    | _ => rfl
  rw [hasync, if_neg (by simp)]
  refine token ?_
  cases t with
  | ident _ _ _ => cases hname
  | _ => exact hplain

theorem assignment_name {emitReturn : Parse Unit} {n : String} (hu : u.isParted)
    (hvalue : Does (Parse.conditional g true) ((.ident n false false, nl) :: (u, nl') :: ts) w () ts₁ w₁)
    (htail : Does (assignmentTail g (some n) true) ts₁ w₁ () ts₂ w₂) :
    Does (Parse.assignment g emitReturn true) ((.ident n false false, nl) :: (u, nl') :: ts) w ()
      ts₂ w₂ := by
  have hplain : Does (do
      let name0 := match ← Parse.token with
        | .ident name _ _ => some name
        | _ => none
      Parse.conditional g true
      assignmentTail g name0 true) ((.ident n false false, nl) :: (u, nl') :: ts) w () ts₂ w₂ :=
    token (hvalue.bind htail)
  obtain ⟨p, rfl⟩ : ∃ p, u = .punct p := by
    cases u with
    | punct p => exact ⟨p, rfl⟩
    | _ => cases hu
  simp only [Token.isParted, Bool.and_eq_true, bne_iff_ne] at hu
  have harrow : Token.isMark (.punct p) "=>" = false := by simpa [Token.isMark, Token.isPunct] using hu.2
  have hgroup : Token.isMark (.punct p) "(" = false := by simpa [Token.isMark, Token.isPunct] using hu.1
  refine get fun s _ => (isKeyword "yield").bind ?_
  rw [show Token.isWord (.ident n false false) "yield" = false from rfl, if_neg (by simp)]
  refine (isPunct "(").bind ((atArrow_name harrow).bind ?_)
  rw [Bool.and_false, if_neg (by simp)]
  refine (isName "async").bind ?_
  split
  · refine peek.bind ?_
    dsimp only
    split
    · exact hplain
    · refine get fun s hs => next.bind ((atArrow_other hgroup rfl).bind ?_)
      rw [if_neg (by simp)]
      refine (set hs).bind ((atArrow_name harrow).bind ?_)
      rw [if_neg (by simp)]
      exact hplain
  · refine token ((peekPunct "=>" true).bind ?_)
    rw [harrow, Bool.and_false, if_neg (by simp)]
    exact hplain

/-- A primary expression that is no name and no group is an expression by itself. -/
theorem assign_constant {d : Nat} (ht : t.starts) (hname : nameOf t = none) (hgroup : t.isMark "(" = false)
    (hu : u.ends) (h : Does (primary (grammar d)) ((t, nl) :: ts) w (.plain, false) ((u, nl') :: ts₁) w₁) :
    Does ((grammar (d + 1)).assign true) ((t, nl) :: ts) w () ((u, nl') :: ts₁) w₁ := by
  have hno : t.name? = none := by
    cases t with
    | ident _ _ _ => cases hname
    | _ => rfl
  have hcloses := Token.closes_of_ends hu
  exact assignment_other (atArrow_other hgroup hno) ht hname
    (operand ht hcloses (member_primary h (Token.parts_of_closes hcloses))) (assignmentTail_none hu)

/-- A variable is an expression by itself. -/
theorem assign_variable {d : Nat} {n : String} (hn : n ≠ "arguments") (hparted : u.isParted) (hu : u.ends) :
    Does ((grammar (d + 1)).assign true) ((.ident n false false, nl) :: (u, nl') :: ts) w () ((u, nl') :: ts)
      (w.append [.getVar n] [] true) := by
  have hcloses := Token.closes_of_ends hu
  exact assignment_name hparted (operand rfl hcloses (member_variable hn (Token.parts_of_closes hcloses)))
    (assignmentTail_none hu)

/-- An expression without commas. -/
theorem expression (h : Does (g.assign true) ts w () ((u, nl) :: ts₁) w₁) (hu : u.isMark "," = false) :
    Does (commaExpression g true) ts w () ((u, nl) :: ts₁) w₁ := by
  refine h.bind (repeatOnce ((isPunct ",").bind ?_) (by simp))
  rw [hu, if_neg (by simp)]
  exact pure _ _ _

/-- Two expressions with a comma between them; the value of the second is no reference. -/
theorem expression_pair (h : Does (g.assign true) ts w () ((.punct ",", nl) :: (t, nl') :: ts') w₁)
    (h' : Does (g.assign true) ((t, nl') :: ts') (w₁.append [.drop] [] true) () ((u, nl₁) :: ts₁) w₂)
    (hu : u.isMark "," = false) :
    Does (commaExpression g true) ts w () ((u, nl₁) :: ts₁) w₂.settle := by
  refine h.bind (repeatStep (@Rounds.more _ 0 _ ((u, nl₁) :: ts₁) _ _ w₂.settle _ ?_ (.last ?_)) (by simp))
  · exact (isPunct ",").bind (next.bind ((emit _).bind (h'.bind (settle.bind (pure _ _ _)))))
  · refine (isPunct ",").bind ?_
    rw [hu, if_neg (by simp)]
    exact pure _ _ _

end Does

end ScriptHost.ProtoScript
