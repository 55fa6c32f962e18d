import ScriptHost.Proofs.StringLiterals
import ScriptHost.ProtoScript.Quoted

/-!
# Texts as string literals

The grammar of string literals between double quotes, as a relation on units, and the proof that a text
written by `quote` is such a literal.  What stands between the quotes depends on what follows only where
an escape could go on: a zero before a digit, and a carriage return before a line feed.

* `Escape`, `Characters`, `IsLiteral` — the grammar, and what its phrases stand for.
* `IsLiteral.unique` — **where a literal begins, it ends at one place and has one value**, whatever follows.
* `isLiteral_quote` — a quoted text is a literal, and its value is the text.
* `isPrinted_of_mem_quote` — no control character and no line separator occurs in a quoted text.
-/

namespace ScriptHost.ProtoScript

open Template (endsLine singleEscapes hexNumber?)
open Text (Units)

/-! ## The grammar -/

/-- Units that stand for a unit behind a backslash and have no other meaning there. -/
def letterEscapes : List (UInt16 × UInt16) :=
  [(0x27, 0x27), (0x22, 0x22), (0x5C, 0x5C)] ++ singleEscapes

/-- Whether a unit is a decimal digit. -/
def isDigitUnit (u : UInt16) : Bool := 0x30 ≤ u && u ≤ 0x39

/-- The units behind a backslash that are an escape before the units that follow, and what the escape
stands for. -/
inductive Escape : List UInt16 → List UInt16 → List UInt16 → Prop where
  | letter {e v : UInt16} {next : List UInt16} : letterEscapes.lookup e = some v → Escape [e] next [v]
  | zero {next : List UInt16} : next.head?.all (!isDigitUnit ·) → Escape [0x30] next [0]
  | byte {a b : UInt16} {n : Nat} {next : List UInt16} :
    hexNumber? [a, b] = some n → Escape [0x78, a, b] next [n.toUInt16]
  | code {a b c d : UInt16} {n : Nat} {next : List UInt16} :
    hexNumber? [a, b, c, d] = some n → Escape [0x75, a, b, c, d] next [n.toUInt16]
  /-- A unit without a meaning of its own. -/
  | plain {e : UInt16} {next : List UInt16} :
    letterEscapes.lookup e = none → isDigitUnit e = false → e ≠ 0x78 → e ≠ 0x75 → endsLine e = false →
    Escape [e] next [e]
  /-- A literal that goes on in the next line. -/
  | line {e : UInt16} {next : List UInt16} :
    endsLine e → (e = 0x0D → next.head? ≠ some 0x0A) → Escape [e] next []
  | lines {next : List UInt16} : Escape [0x0D, 0x0A] next []

/-- Units between the quotes of a literal, before the units that follow, and their value. -/
inductive Characters : List UInt16 → List UInt16 → List UInt16 → Prop where
  | nothing {next : List UInt16} : Characters [] next []
  | unit {u : UInt16} {us next vs : List UInt16} :
    u ≠ 0x22 → u ≠ 0x5C → endsLine u = false → Characters us next vs → Characters (u :: us) next (u :: vs)
  | escape {es us next v vs : List UInt16} :
    Escape es (us ++ next) v → Characters us next vs → Characters (0x5C :: (es ++ us)) next (v ++ vs)

/-- A text is one literal between double quotes, and this is its value. -/
def IsLiteral (text value : List UInt16) : Prop :=
  ∃ body, text = 0x22 :: (body ++ [0x22]) ∧ Characters body [0x22] value

/-! ## A literal ends at one place -/

/-- The escape behind a backslash and the number of its units, as a reader finds them. -/
def readEscape? : List UInt16 → Option (List UInt16 × Nat)
  | [] => none
  | e :: us =>
    if let some v := letterEscapes.lookup e then some ([v], 1)
    else if e = 0x30 then some ([0], 1)
    else if e = 0x78 then (hexNumber? (us.take 2)).map fun n => ([n.toUInt16], 3)
    else if e = 0x75 then (hexNumber? (us.take 4)).map fun n => ([n.toUInt16], 5)
    else if e = 0x0D ∧ us.head? = some 0x0A then some ([], 2)
    else if endsLine e then some ([], 1)
    else some ([e], 1)

theorem Escape.read {es next v : List UInt16} (h : Escape es next v) :
    readEscape? (es ++ next) = some (v, es.length) := by
  cases h with
  | letter h => simp [readEscape?, h]
  | zero _ => rfl
  | byte h => simp [readEscape?, show letterEscapes.lookup 0x78 = none from rfl, h]
  | code h => simp [readEscape?, show letterEscapes.lookup 0x75 = none from rfl, h]
  | @plain e next hletter hdigit hx hu hline =>
    have hzero : e ≠ 0x30 := by
      rintro rfl
      exact absurd hdigit (by decide)
    have hreturn : e ≠ 0x0D := by
      rintro rfl
      exact absurd hline (by decide)
    simp [readEscape?, hletter, hzero, hx, hu, hreturn, hline]
  | @line e next hline hnext =>
    have hends : e = 0x0A ∨ e = 0x0D ∨ e = 0x2028 ∨ e = 0x2029 := by
      simpa [endsLine, or_assoc] using hline
    have hletter : letterEscapes.lookup e = none := by
      rcases hends with rfl | rfl | rfl | rfl <;> rfl
    have hother : e ≠ 0x30 ∧ e ≠ 0x78 ∧ e ≠ 0x75 := by
      rcases hends with rfl | rfl | rfl | rfl <;> decide
    have hpair : ¬(e = 0x0D ∧ next.head? = some 0x0A) := fun h => hnext h.1 h.2
    simp [readEscape?, hletter, hother, hpair, hline]
  | lines => rfl

/-- An escape is not made longer by what follows. -/
theorem Escape.unique {es es' next next' v v' : List UInt16} (h : Escape es next v) (h' : Escape es' next' v')
    (heq : es ++ next = es' ++ next') : es = es' ∧ next = next' ∧ v = v' := by
  have hread := h.read
  rw [heq, h'.read] at hread
  obtain ⟨hvalue, hlength⟩ := Prod.mk.inj (Option.some.inj hread)
  obtain ⟨hes, hnext⟩ := List.append_inj heq hlength.symm
  exact ⟨hes, hnext, hvalue.symm⟩

theorem Escape.congr {es next next' v : List UInt16} (h : Escape es next v)
    (hhead : next.head? = next'.head?) : Escape es next' v := by
  cases h with
  | letter h => exact .letter h
  | zero h => exact .zero (hhead ▸ h)
  | byte h => exact .byte h
  | code h => exact .code h
  | plain h₁ h₂ h₃ h₄ h₅ => exact .plain h₁ h₂ h₃ h₄ h₅
  | line h hnext => exact .line h (hhead ▸ hnext)
  | lines => exact .lines

theorem Characters.congr {us next next' vs : List UInt16} (h : Characters us next vs)
    (hhead : next.head? = next'.head?) : Characters us next' vs := by
  induction h with
  | nothing => exact .nothing
  | unit h₁ h₂ h₃ _ ih => exact .unit h₁ h₂ h₃ (ih hhead)
  | @escape es us next v vs hes _ ih =>
    refine .escape (hes.congr ?_) (ih hhead)
    rw [List.head?_append, List.head?_append, hhead]

/-- Between quotes the closing quote is the first that no escape takes. -/
theorem Characters.unique {us us' rest rest' vs vs' : List UInt16} (h : Characters us (0x22 :: rest) vs)
    (h' : Characters us' (0x22 :: rest') vs') (heq : us ++ 0x22 :: rest = us' ++ 0x22 :: rest') :
    us = us' ∧ vs = vs' := by
  generalize hnext : 0x22 :: rest = next at h
  induction h generalizing us' vs' with
  | nothing =>
    cases h' with
    | nothing => exact ⟨rfl, rfl⟩
    | unit hquote => exact absurd (List.cons.inj heq).1.symm hquote
    | escape => exact absurd (List.cons.inj heq).1 (by decide)
  | @unit u us next vs hquote hslash hline hus ih =>
    cases h' with
    | nothing => exact absurd (List.cons.inj heq).1 hquote
    | unit _ _ _ hus' =>
      obtain ⟨rfl, hrest⟩ := List.cons.inj heq
      obtain ⟨rfl, rfl⟩ := ih hus' hrest hnext
      exact ⟨rfl, rfl⟩
    | escape => exact absurd (List.cons.inj heq).1 hslash
  | @escape es us next v vs hes hus ih =>
    cases h' with
    | nothing => exact absurd (List.cons.inj heq).1 (by decide)
    | unit _ hslash => exact absurd (List.cons.inj heq).1.symm hslash
    | escape hes' hus' =>
      simp only [List.cons_append, List.append_assoc, List.cons.injEq, true_and] at heq
      subst hnext
      obtain ⟨rfl, hrest', rfl⟩ := hes.unique hes' heq
      obtain ⟨rfl, rfl⟩ := ih hus' hrest' rfl
      exact ⟨rfl, rfl⟩

/-- **Where a literal begins, it ends at one place and has one value**, whatever follows it. -/
theorem IsLiteral.unique {text text' value value' rest rest' : List UInt16} (h : IsLiteral text value)
    (h' : IsLiteral text' value') (heq : text ++ rest = text' ++ rest') : text = text' ∧ value = value' := by
  obtain ⟨body, rfl, hbody⟩ := h
  obtain ⟨body', rfl, hbody'⟩ := h'
  simp only [List.cons_append, List.append_assoc, List.cons.injEq, List.nil_append, true_and] at heq
  have hfirst : Characters body (0x22 :: rest) value := hbody.congr rfl
  have hsecond : Characters body' (0x22 :: rest') value' := hbody'.congr rfl
  obtain ⟨rfl, hvalue⟩ := hfirst.unique hsecond heq
  exact ⟨rfl, hvalue⟩

/-! ## Quoted texts -/

theorem hexNumber?_control {n : Nat} (h : n < 0x20) :
    hexNumber? [0x30, 0x30, (hexDigit (n / 16)).toNat.toUInt16, (hexDigit (n % 16)).toNat.toUInt16] = some n := by
  have hall : (List.range 0x20).all fun n => decide (hexNumber? [0x30, 0x30, (hexDigit (n / 16)).toNat.toUInt16,
      (hexDigit (n % 16)).toNat.toUInt16] = some n) := by decide +kernel
  simpa using List.all_eq_true.mp hall n (List.mem_range.mpr h)

/-- Units of a character that is written as it is. -/
theorem not_special_of_mem_ofChar {c : Char} (hquote : c ≠ '"') (hslash : c ≠ '\\') (hfeed : c ≠ '\n')
    (hreturn : c ≠ '\r') (hline : c.toNat ≠ 0x2028) (hparagraph : c.toNat ≠ 0x2029) :
    ∀ u ∈ Units.ofChar c, u ≠ 0x22 ∧ u ≠ 0x5C ∧ endsLine u = false := by
  have hne (d : Char) (h : c ≠ d) : c.toNat ≠ d.toNat := fun heq => h (Char.toNat_inj.mp heq)
  have hspecial (u : UInt16) (h : u.toNat ≠ 0x22 ∧ u.toNat ≠ 0x5C ∧ u.toNat ≠ 0x0A ∧ u.toNat ≠ 0x0D
      ∧ u.toNat ≠ 0x2028 ∧ u.toNat ≠ 0x2029) : u ≠ 0x22 ∧ u ≠ 0x5C ∧ endsLine u = false := by
    simpa [endsLine, ← UInt16.toNat_inj, and_assoc] using h
  intro u hu
  apply hspecial
  unfold Units.ofChar at hu
  split at hu
  · next hsmall =>
    rw [List.mem_singleton] at hu
    rw [hu, Units.toNat_toUInt16 hsmall]
    exact ⟨hne '"' hquote, hne '\\' hslash, hne '\n' hfeed, hne '\r' hreturn, hline, hparagraph⟩
  · next hlarge =>
    have hvalid := Units.toNat_lt_or_gt c
    simp only [List.mem_cons, List.not_mem_nil, or_false] at hu
    rcases hu with rfl | rfl
    all_goals
      rw [Units.toNat_toUInt16 (by omega)]
      omega

theorem Characters.units {us us' next vs : List UInt16}
    (h : ∀ u ∈ us, u ≠ 0x22 ∧ u ≠ 0x5C ∧ endsLine u = false) (hus' : Characters us' next vs) :
    Characters (us ++ us') next (us ++ vs) := by
  induction us with
  | nil => exact hus'
  | cons u us ih =>
    obtain ⟨hquote, hslash, hline⟩ := h u List.mem_cons_self
    exact .unit hquote hslash hline (ih fun u hu => h u (List.mem_cons_of_mem _ hu))

/-- One quoted character stands for that character, whatever is around it. -/
theorem characters_quoteChar (c : Char) {us next vs : List UInt16} (h : Characters us next vs) :
    Characters (Units.ofChars (quoteChar c) ++ us) next (Units.ofChar c ++ vs) := by
  unfold quoteChar
  split
  · next heq =>
    subst heq
    exact .escape (.letter (e := 0x22) rfl) h
  split
  · next heq =>
    subst heq
    exact .escape (.letter (e := 0x5C) rfl) h
  split
  · next heq =>
    subst heq
    exact .escape (.letter (e := 0x6E) rfl) h
  split
  · next heq =>
    subst heq
    exact .escape (.letter (e := 0x72) rfl) h
  split
  · next heq =>
    rw [show c = Char.ofNat 0x2028 by rw [← heq, Char.ofNat_toNat]]
    exact .escape (.code (a := 0x32) (b := 0x30) (c := 0x32) (d := 0x38) rfl) h
  split
  · next heq =>
    rw [show c = Char.ofNat 0x2029 by rw [← heq, Char.ofNat_toNat]]
    exact .escape (.code (a := 0x32) (b := 0x30) (c := 0x32) (d := 0x39) rfl) h
  split
  · next hquote hslash hfeed hreturn hline hparagraph hcontrol =>
    have hunit : Units.ofChar c = [c.toNat.toUInt16] := if_pos (by omega)
    have hdigit (n : Nat) (hn : n < 0x10) : Units.ofChar (hexDigit n) = [(hexDigit n).toNat.toUInt16] := by
      have hall : (List.range 0x10).all fun n => decide ((hexDigit n).toNat < 0x10000) := by decide
      exact if_pos (by simpa using List.all_eq_true.mp hall n (List.mem_range.mpr hn))
    have hspelled : Units.ofChars ['\\', 'u', '0', '0', hexDigit (c.toNat / 16), hexDigit (c.toNat % 16)]
        = 0x5C :: [0x75, 0x30, 0x30, (hexDigit (c.toNat / 16)).toNat.toUInt16,
            (hexDigit (c.toNat % 16)).toNat.toUInt16] := by
      simp only [Units.ofChars_cons, Units.ofChars_nil, hdigit _ (show c.toNat / 16 < 0x10 by omega),
        hdigit _ (Nat.mod_lt c.toNat (by decide : 0 < 16))]
      rfl
    rw [hspelled, hunit]
    exact .escape (.code (hexNumber?_control hcontrol)) h
  · next hquote hslash hfeed hreturn hline hparagraph hcontrol =>
    rw [Units.ofChars_cons, Units.ofChars_nil, List.append_nil]
    exact .units (not_special_of_mem_ofChar hquote hslash hfeed hreturn hline hparagraph) h

theorem quote_toList (s : String) : (quote s).toList = '"' :: (s.toList.flatMap quoteChar ++ ['"']) := by
  rw [quote, String.toList_ofList, List.cons_append]

/-- A quoted text is a literal, and its value is the text. -/
theorem isLiteral_quote (s : String) : IsLiteral (Units.ofChars (quote s).toList) (Units.ofChars s.toList) := by
  refine ⟨Units.ofChars (s.toList.flatMap quoteChar), ?_, ?_⟩
  · rw [quote_toList, Units.ofChars_cons, Units.ofChars_append]
    rfl
  · induction s.toList with
    | nil => exact .nothing
    | cons c cs ih =>
      rw [List.flatMap_cons, Units.ofChars_append, Units.ofChars_cons]
      exact characters_quoteChar c ih

/-- A character that may stand in a quoted text. -/
def isPrinted (c : Char) : Bool := 0x20 ≤ c.toNat && c.toNat != 0x2028 && c.toNat != 0x2029

theorem isPrinted_quoteChar (c : Char) : (quoteChar c).all isPrinted := by
  unfold quoteChar
  split
  · rfl
  split
  · rfl
  split
  · rfl
  split
  · rfl
  split
  · rfl
  split
  · rfl
  split
  · next hcontrol =>
    have hdigit (n : Nat) (hn : n < 0x10) : isPrinted (hexDigit n) := by
      have hall : (List.range 0x10).all fun n => isPrinted (hexDigit n) := by decide
      exact List.all_eq_true.mp hall n (List.mem_range.mpr hn)
    have hhigh := hdigit (c.toNat / 16) (by omega)
    have hlow := hdigit (c.toNat % 16) (Nat.mod_lt _ (by decide))
    simp only [List.all_cons, List.all_nil, hhigh, hlow]
    rfl
  · next hline hparagraph hcontrol =>
    simp only [List.all_cons, List.all_nil, isPrinted, Bool.and_true, Bool.and_eq_true, bne_iff_ne,
      decide_eq_true_eq]
    exact ⟨⟨Nat.not_lt.mp hcontrol, hline⟩, hparagraph⟩

/-- Control characters and line separators do not occur in a quoted text. -/
theorem isPrinted_of_mem_quote {s : String} {c : Char} (h : c ∈ (quote s).toList) : isPrinted c := by
  rw [quote_toList] at h
  simp only [List.mem_cons, List.mem_append, List.mem_flatMap, List.not_mem_nil, or_false] at h
  rcases h with rfl | ⟨d, -, hd⟩ | rfl
  · rfl
  · exact List.all_eq_true.mp (isPrinted_quoteChar d) c hd
  · rfl

end ScriptHost.ProtoScript
