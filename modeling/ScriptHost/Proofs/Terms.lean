import ScriptHost.Proofs.Matching
import ScriptHost.Proofs.Reading

/-!
# The groups of an expression

A term counts a group for every parenthesis that begins one in its text, so the groups of an expression can
be read off its text.  So can its last alternative, if that is the end of the line.

* `Takes` — a step over terms, which counts the groups of their text.
* `Closes` — a step from behind an opening parenthesis to behind the closing one.
* `groupCount_of_parse` — **an expression has the groups of its text**.
* `endsInLineEnd_of_parse` — an expression whose text ends in a bar and a dollar sign, outside of all groups.
-/

namespace ScriptHost.Regex

open Text

section Steps

variable {stop : List Nat} {src : Source} {s s' s'' : ReaderState}

/-! ## Terms -/

/-- A step over terms, of which some are groups, from a place inside at least `least` parentheses. -/
structure Takes (stop : List Nat) (src : Source) (least : Nat) (s s' : ReaderState) : Prop where
  groups : s.groups ≤ s'.groups
  pos : s.pos ≤ s'.pos
  rest : ∀ depth ≥ least, groupsBefore stop depth false false (src.rest s)
    = (groupsBefore stop depth false false (src.rest s')).map (· + (s'.groups - s.groups))

/-- A step from behind an opening parenthesis to behind the closing one.  If the first of them opens a group
that is counted, that group is among those that have begun. -/
structure Closes (stop : List Nat) (src : Source) (counted : Bool) (s s' : ReaderState) : Prop where
  groups : s.groups + counted.toNat ≤ s'.groups
  pos : s.pos ≤ s'.pos
  rest : ∀ depth, (groupsBefore stop (depth + 1) false false (src.rest s)).map (· + counted.toNat)
    = (groupsBefore stop depth false false (src.rest s')).map (· + (s'.groups - s.groups))

theorem Quiet.takes (h : Quiet stop src false s s') (least : Nat) : Takes stop src least s s' := by
  refine ⟨Nat.le_of_eq h.groups.symm, h.pos, fun depth _ => ?_⟩
  rw [h.rest, h.groups, Nat.sub_self]
  simp

theorem Takes.trans {least : Nat} (h : Takes stop src least s s') (h' : Takes stop src least s' s'') :
    Takes stop src least s s'' := by
  refine ⟨Nat.le_trans h.groups h'.groups, Nat.le_trans h.pos h'.pos, fun depth hdepth => ?_⟩
  have hgroups : s''.groups - s.groups = s''.groups - s'.groups + (s'.groups - s.groups) := by
    have := h.groups
    have := h'.groups
    omega
  rw [h.rest depth hdepth, h'.rest depth hdepth, Option.map_map, hgroups]
  congr 1
  funext n
  simp only [Function.comp, Nat.add_assoc]

/-- What stands behind an opening parenthesis may be passed over first. -/
theorem Closes.of_quiet {counted : Bool} (h : Quiet stop src false s s') (h' : Closes stop src counted s' s'') :
    Closes stop src counted s s'' := by
  refine ⟨by rw [← h.groups]; exact h'.groups, Nat.le_trans h.pos h'.pos, fun depth => ?_⟩
  rw [h.rest, h'.rest, h.groups]

/-- A term in parentheses. -/
theorem Closes.takes (hstop : ∀ c ∈ stop.head?, c = 0x7C) (hopen : src.ahead s 0 = 0x28)
    (h : Closes stop src (captures (src.rest (s.moved 1))) (s.moved 1) s') : Takes stop src 0 s s' := by
  refine ⟨Nat.le_trans (Nat.le_add_right _ _) h.groups, Nat.le_trans (Nat.le_add_right _ 1) h.pos, fun depth _ => ?_⟩
  rw [rest_eq_cons src hopen (by decide), groupsBefore_open hstop, h.rest, groups_moved]

namespace Parser

variable (hstop : ∀ c ∈ stop.head?, c = 0x7C) {inner : Parser Node}
  (hinner : ∀ s, Reads inner src s fun _ s' => Takes stop src 1 s s')

include hinner in
/-- A term and the closing parenthesis behind it. -/
theorem reads_inner {Q : Node → ReaderState → Prop} (hQ : ∀ node s', Closes stop src false s s' → Q node s') :
    Reads inner src s fun node s' => src.ahead s' 0 = code ')' → s'.pos < src.text.size → Q node (s'.moved 1) := by
  refine (hinner s).mono fun node s' h hclose _ => hQ node _ ⟨?_, ?_, fun depth => ?_⟩
  · simpa using h.groups
  · exact Nat.le_trans h.pos (Nat.le_add_right _ _)
  · rw [h.rest (depth + 1) (Nat.le_add_left 1 depth), rest_eq_cons src hclose (by decide)]
    change ((groupsBefore stop (depth + 1) false false (0x29 :: _)).map _).map _ = _
    rw [groupsBefore_close, Option.map_map]
    rfl

include hinner in
theorem reads_capture : Reads (capture inner) src s fun _ s' => Closes stop src true s s' := by
  simp only [capture, reads_bind, reads_get, reads_modify, reads_expect, reads_pure]
  refine reads_inner hinner fun node s' h => ⟨h.groups, h.pos, fun depth => ?_⟩
  have hgroups : s.groups + 1 ≤ s'.groups := h.groups
  have hrest : groupsBefore stop (depth + 1) false false (src.rest s)
      = (groupsBefore stop depth false false (src.rest s')).map (· + (s'.groups - (s.groups + 1))) := by
    have hopened : src.rest { s with groups := s.groups + 1 } = src.rest s := rest_eq src rfl
    rw [← hopened]
    simpa using h.rest depth
  rw [hrest, Option.map_map]
  congr 1
  funext n
  simp only [Function.comp, Bool.toNat_true]
  omega

include hstop hinner in
theorem reads_parenthesised (hunicode : src.unicode = false) (hopen : src.ahead s 0 = 0x28) :
    Reads (parenthesised inner) src s fun _ s' => Takes stop src 0 s s' := by
  have hcaptures : captures (src.rest (s.moved 1))
      = (src.ahead s 1 != 0x3F || src.ahead s 2 == 0x3C && src.ahead s 3 != 0x3D && src.ahead s 3 != 0x21) := by
    simp [captures, opensNamed, beginsName, Source.ahead, rest_moved, List.headD_eq_head?_getD,
      List.getD_eq_getElem?_getD, Bool.and_assoc]
  -- what opens the parentheses, and then their term
  have hpassed {n : Nat} (hn : ∀ i < n, isSpecial false (src.ahead s (1 + i)) = false) :
      Quiet stop src false (s.moved 1) (s.moved (1 + n)) := by
    rw [← moved_moved]
    exact .many hstop (by simpa using hn)
  have hplain {n : Nat} (hn : ∀ i < n, isSpecial false (src.ahead s (1 + i)) = false)
      (hcount : captures (src.rest (s.moved 1)) = false) :
      Reads inner src (s.moved (1 + n)) fun _ s' => src.ahead s' 0 = code ')' → s'.pos < src.text.size →
        Takes stop src 0 s (s'.moved 1) := by
    refine reads_inner hinner (Q := fun _ s' => Takes stop src 0 s s') fun _ s' h => Closes.takes hstop hopen ?_
    rw [hcount]
    exact .of_quiet (hpassed hn) h
  simp only [parenthesised, reads_bind, reads_peek, reads_ite, reads_advance, reads_read, reads_expect, reads_pure,
    reads_throw, implies_true, and_true]
  simp [code]
  refine ⟨fun hgroup => ?_, fun hmark => ⟨fun hcolon => ?_, fun _ => ⟨fun hahead => ?_, fun _ _ =>
    ⟨fun hless hbehind => ?_, fun hname hless => ?_⟩⟩⟩⟩
  · have hcount : captures (src.rest (s.moved 1)) = true := by simp [hcaptures, hgroup]
    refine (reads_capture hinner).mono fun _ s' h => Closes.takes hstop hopen ?_
    rwa [hcount]
  · refine hplain (n := 2) (fun i hi => ?_) (by simp [hcaptures, hmark, hcolon])
    rcases (by omega : i = 0 ∨ i = 1) with rfl | rfl <;> simp [isSpecial, hmark, hcolon]
  · refine hplain (n := 2) (fun i hi => ?_) ?_
    · rcases (by omega : i = 0 ∨ i = 1) with rfl | rfl <;> rcases hahead with h | h <;> simp [isSpecial, hmark, h]
    · rcases hahead with h | h <;> simp [hcaptures, hmark, h]
  · refine hplain (n := 3) (fun i hi => ?_) ?_
    · rcases (by omega : i = 0 ∨ i = 1 ∨ i = 2) with rfl | rfl | rfl <;> rcases hbehind with h | h <;>
        simp [isSpecial, hmark, hless, h]
    · rcases hbehind with h | h <;> simp [hcaptures, hmark, hless, h]
  · have hopened : Quiet stop src false (s.moved 1) (s.moved 3) := hpassed (n := 2) fun i hi => by
      rcases (by omega : i = 0 ∨ i = 1) with rfl | rfl <;> simp [isSpecial, hmark, hless]
    have hcount : captures (src.rest (s.moved 1)) = true := by
      simpa [hcaptures, hmark, hless] using hname hless
    refine (reads_groupName false hstop hunicode).mono fun a s₁ h₁ => ?_
    cases a with
    | none => simp
    | some name =>
      simp only [reads_bind, reads_get, reads_ite, reads_throw, reads_set, implies_true, true_and]
      intro _
      refine (reads_capture hinner).mono fun _ s' h => Closes.takes hstop hopen ?_
      rw [hcount]
      have hnamed : Quiet stop src false s₁ { s₁ with names := s₁.names ++ [(name, s₁.groups)] } := .of_eq rfl rfl
      exact .of_quiet ((hopened.trans h₁).trans hnamed) h

/-! ### References and repetitions -/

include hstop in
/-- An atom that is read in a state that was gone back to. -/
theorem reads_escapedAtom (hunicode : src.unicode = false) (hslash : src.ahead s 0 = 0x5C) {t : ReaderState}
    (hpos : t.pos = s.pos) (hgroups : t.groups = s.groups) :
    Reads (atom false) src t fun _ s' => Quiet stop src false s s' := by
  have hahead : src.ahead t 0 = 0x5C := (ahead_eq src hpos 0).trans hslash
  refine (reads_atom false hstop hunicode fun hne => absurd hahead hne).mono fun _ s' h => ?_
  exact (Quiet.of_eq hpos hgroups).trans h.1

include hstop in
theorem reads_namedReference (hunicode : src.unicode = false) (hslash : src.ahead s 0 = 0x5C)
    (hk : src.ahead s 1 = 0x6B) : Reads namedReference src s fun _ s' => Quiet stop src false s s' := by
  simp only [namedReference, hunicode, reads_bind, reads_read, reads_peek, reads_ite, reads_throw, reads_pure,
    reads_get, reads_advance, implies_true, true_and]
  refine ⟨fun _ _ => reads_escapedAtom hstop hunicode hslash rfl rfl, fun hless => ?_⟩
  have hopened : Quiet stop src false s (s.moved 3) := by
    have hpair : Quiet stop src false s (s.moved 2) := .pair hstop hslash (lt_size_of_ahead (by omega))
    have hone : Quiet stop src false (s.moved 2) ((s.moved 2).moved 1) := .one hstop (by
      rw [ahead_moved, show src.ahead s (2 + 0) = 0x3C by simpa [code] using hless]
      rfl)
    rw [moved_moved] at hone
    exact hpair.trans hone
  refine (reads_groupName false hstop hunicode).mono fun a s₁ h₁ => ?_
  have hquiet := hopened.trans h₁
  have hback : Reads (atom false) src { s₁ with pos := s.pos } fun _ s' => Quiet stop src false s s' :=
    reads_escapedAtom hstop hunicode hslash rfl hquiet.groups
  cases a with
  | none => simpa using fun _ => hback
  | some name =>
    simp only [reads_bind, reads_read]
    cases src.allNames.lookup name with
    | some i => simpa using hquiet
    | none => simpa using fun _ => hback

include hstop in
theorem reads_numberedReference (hunicode : src.unicode = false) (hslash : src.ahead s 0 = 0x5C)
    (hdigit : isDigit (src.ahead s 1)) : Reads numberedReference src s fun _ s' => Quiet stop src false s s' := by
  have hslashed : Quiet stop src false s (s.moved 1) := by
    refine .slash hstop hslash (lt_size_of_ahead ?_) (not_special_of_isDigit false hdigit)
    simp [isDigit] at hdigit
    omega
  simp only [numberedReference, hunicode, reads_bind, reads_read, reads_peek, reads_ite, reads_throw, reads_pure,
    reads_get, reads_advance, reads_modify, Bool.false_eq_true, implies_true, true_and, not_false_eq_true, true_implies]
  refine (reads_number false hstop).mono fun n s₁ h₁ => ⟨fun _ => hslashed.trans h₁, fun _ => ?_⟩
  -- an old octal escape is read from the first digit again
  have hback : Quiet stop src false s { s₁ with pos := (s.moved 1).pos } := hslashed.trans (h₁.back rfl)
  have hfirst : Quiet stop src false s (ReaderState.moved { s₁ with pos := (s.moved 1).pos } 1) := by
    refine hback.trans (.one hstop ?_)
    have hagain : src.ahead { s₁ with pos := (s.moved 1).pos } 0 = src.ahead s 1 :=
      (ahead_eq src (s := s.moved 1) rfl 0).trans (ahead_moved ..)
    rw [hagain]
    exact not_special_of_isDigit false hdigit
  refine ⟨fun _ => ⟨fun hsecond => ?_, fun _ => hfirst⟩, fun _ => hfirst⟩
  simp only [Bool.and_eq_true, decide_eq_true_eq] at hsecond
  have htwo := hfirst.trans (.one hstop (not_special_of_octal false hsecond.1 hsecond.2))
  refine ⟨fun hthird => ?_, fun _ => htwo⟩
  simp only [Bool.and_eq_true, decide_eq_true_eq] at hthird
  exact htwo.trans (.one hstop (not_special_of_octal false hthird.1.2 hthird.2))

include hstop in
theorem reads_zeroEscape (hunicode : src.unicode = false) (hslash : src.ahead s 0 = 0x5C)
    (hzero : src.ahead s 1 = 0x30) : Reads zeroEscape src s fun _ s' => Quiet stop src false s s' := by
  have hpair : Quiet stop src false s (s.moved 2) := .pair hstop hslash (lt_size_of_ahead (by omega))
  simp only [zeroEscape, hunicode, reads_bind, reads_read, reads_peek, reads_ite, reads_throw, reads_pure,
    reads_advance, Bool.false_eq_true, false_implies, true_and, Bool.and_eq_true, decide_eq_true_eq,
    not_false_eq_true, true_implies]
  refine ⟨fun hfirst => ?_, fun _ => hpair⟩
  have hone := hpair.trans (.one hstop (not_special_of_octal false hfirst.1 hfirst.2))
  refine ⟨fun hsecond => ?_, fun _ => hone⟩
  exact hone.trans (.one hstop (not_special_of_octal false hsecond.1 hsecond.2))

theorem reads_looksLikeCount : Reads looksLikeCount src s fun _ s' => s'.pos = s.pos ∧ s'.groups = s.groups := by
  have hstop : ∀ c ∈ ([] : List Nat).head?, c = 0x7C := by simp
  simp only [looksLikeCount, reads_bind, reads_get, reads_advance, reads_peek, reads_ite, reads_modify, reads_pure,
    true_and]
  refine (reads_number false hstop).mono fun _ s₁ h₁ => ⟨fun _ => ?_, fun _ => h₁.groups⟩
  exact (reads_number false hstop).mono fun _ s₂ h₂ => h₂.groups.trans h₁.groups

include hstop in
theorem reads_bounds (hunicode : src.unicode = false) :
    Reads bounds src s fun _ s' => Quiet stop src false s s' := by
  have hmark {c : Char} (hc : isSpecial false (code c) = false) {t : ReaderState} (h : (src.ahead t 0 == code c) = true) :
      Quiet stop src false t (t.moved 1) := by
    refine .one hstop ?_
    rwa [beq_iff_eq.mp h]
  -- the closing brace, or the state from before the opening one
  have hclose {t : ReaderState} (ht : Quiet stop src false s t) :
      ((src.ahead t 0 != code '\x7d' && !false) = true → Quiet stop src false s { t with pos := s.pos })
        ∧ (¬(src.ahead t 0 != code '\x7d' && !false) = true → src.ahead t 0 = code '\x7d' → t.pos < src.text.size →
          Quiet stop src false s (t.moved 1)) :=
    ⟨fun _ => ht.back rfl, fun _ h _ => ht.trans (hmark (by decide) (beq_iff_eq.mpr h))⟩
  simp only [bounds, hunicode, reads_bind, reads_read, reads_peek, reads_ite, reads_throw, reads_pure,
    reads_get, reads_advance, reads_modify, reads_expect, Bool.false_eq_true, true_and, not_false_eq_true,
    true_implies, implies_true]
  refine ⟨hmark (by decide), fun _ => ⟨hmark (by decide), fun _ => ⟨hmark (by decide), fun _ => ⟨fun hopen => ?_,
    fun _ => .refl s⟩⟩⟩⟩
  refine ⟨fun _ => .refl s, fun _ => ?_⟩
  refine (reads_number false hstop).mono fun lo s₁ h₁ => ?_
  have hlo := (hmark (by decide) hopen).trans h₁
  refine ⟨fun hcomma => ?_, fun _ => hclose hlo⟩
  have hcomma := hlo.trans (hmark (by decide) hcomma)
  refine ⟨fun _ => ?_, fun _ => hclose hcomma⟩
  exact (reads_number false hstop).mono fun hi s₂ h₂ _ => hclose (hcomma.trans h₂)

/-! ### Alternatives -/

include hstop hinner in
theorem reads_bareTerm (hunicode : src.unicode = false) (hbar : src.ahead s 0 ≠ 0x7C) (hparen : src.ahead s 0 ≠ 0x29) :
    Reads (bareTerm inner) src s fun _ s' => Takes stop src 0 s s' := by
  have hquiet {α : Type} {x : Parser α} (h : Reads x src s fun _ s' => Quiet stop src false s s') :
      Reads x src s fun _ s' => Takes stop src 0 s s' := h.mono fun _ _ h => h.takes 0
  have hmark {c : Char} (hc : isSpecial false (code c) = false) (h : (src.ahead s 0 == code c) = true) :
      Takes stop src 0 s (s.moved 1) := by
    refine (Quiet.one hstop ?_).takes 0
    rwa [beq_iff_eq.mp h]
  have hordinary {t : ReaderState} (hpos : t.pos = s.pos) (hgroups : t.groups = s.groups)
      (hfirst : src.ahead s 0 ≠ 0x5C → isSpecial false (src.ahead s 0) = false) :
      Reads (atom false) src t fun _ s' => Takes stop src 0 s s' := by
    rw [← ahead_eq src hpos] at hfirst
    exact (reads_atom false hstop hunicode fun hne _ => hfirst hne).mono fun _ s' h =>
      ((Quiet.of_eq hpos hgroups).trans h.1).takes 0
  simp only [bareTerm, hunicode, reads_bind, reads_read, reads_peek, reads_ite, reads_throw, reads_pure, reads_advance,
    Bool.false_eq_true, true_and, not_false_eq_true, true_implies, implies_true]
  refine ⟨hmark (by decide), fun _ => ⟨hmark (by decide), fun _ => ⟨hmark (by decide), fun _ => ⟨fun hbrace => ?_,
    fun _ _ => ⟨fun hopen => reads_parenthesised hstop hinner hunicode (beq_iff_eq.mp hopen), fun hgroup =>
      ⟨fun hslash => ?_, fun hslash => ⟨fun hclass => hquiet (reads_charClass hstop hunicode (beq_iff_eq.mp hclass)),
        fun hclass _ => ?_⟩⟩⟩⟩⟩⟩⟩
  · have hfirst : src.ahead s 0 ≠ 0x5C → isSpecial false (src.ahead s 0) = false := by
      intro _
      rw [beq_iff_eq.mp hbrace]
      rfl
    refine ⟨fun _ => hordinary rfl rfl hfirst, fun _ => ?_⟩
    exact reads_looksLikeCount.mono fun _ s₁ h₁ _ => hordinary h₁.1 h₁.2 hfirst
  · have hslash : src.ahead s 0 = 0x5C := beq_iff_eq.mp hslash
    refine ⟨fun hboundary => ?_, fun _ => ⟨fun hk => ?_, fun _ => ⟨fun hzero => ?_, fun _ => ⟨fun hdigit => ?_,
      fun _ => hordinary rfl rfl fun hne => absurd hslash hne⟩⟩⟩⟩
    · refine (Quiet.pair hstop hslash (lt_size_of_ahead ?_)).takes 0
      simp [code] at hboundary
      omega
    · exact hquiet (reads_namedReference hstop hunicode hslash (beq_iff_eq.mp hk))
    · exact hquiet (reads_zeroEscape hstop hunicode hslash (beq_iff_eq.mp hzero))
    · refine hquiet (reads_numberedReference hstop hunicode hslash ?_)
      simp only [isDigit, Bool.and_eq_true, decide_eq_true_eq] at hdigit ⊢
      omega
  · refine hordinary rfl rfl fun hne => ?_
    simp only [code, beq_iff_eq] at hgroup hclass
    simp [isSpecial, hne, hparen, hbar]
    exact ⟨hclass, hgroup⟩

include hstop hinner in
theorem reads_term (hunicode : src.unicode = false) (hbar : src.ahead s 0 ≠ 0x7C) (hparen : src.ahead s 0 ≠ 0x29) :
    Reads (term inner) src s fun _ s' => Takes stop src 0 s s' := by
  simp only [term, reads_bind, reads_get]
  refine (reads_bareTerm hstop hinner hunicode hbar hparen).mono ?_
  rintro ⟨node, repeatable⟩ s₁ h₁
  simp only [reads_ite, reads_pure, reads_bind]
  refine ⟨fun _ => h₁, fun _ => (reads_bounds hstop hunicode).mono fun count s₂ h₂ => ?_⟩
  have hcounted := h₁.trans (h₂.takes 0)
  cases count with
  | none => simpa using hcounted
  | some count =>
    simp only [reads_bind, reads_peek, reads_ite, reads_advance, reads_get, reads_pure]
    refine ⟨fun hlazy => hcounted.trans (Quiet.takes (.one hstop ?_) 0), fun _ => hcounted⟩
    rw [show src.ahead s₂ 0 = 0x3F by simpa [code] using hlazy]
    rfl

include hstop hinner in
theorem reads_alternative (hunicode : src.unicode = false) (fuel : Nat) (acc : Node) :
    Reads (alternative inner fuel acc) src s fun _ s' => Takes stop src 0 s s' := by
  induction fuel generalizing acc s with
  | zero => simpa [alternative] using (Quiet.refl s).takes 0
  | succ fuel ih =>
    simp only [alternative, reads_bind, reads_atEnd, reads_ite, reads_pure, reads_peek]
    refine ⟨fun _ => (Quiet.refl s).takes 0, fun _ => ⟨fun _ => (Quiet.refl s).takes 0, fun hgoes => ?_⟩⟩
    simp [code] at hgoes
    exact (reads_term hstop hinner hunicode hgoes.1 hgoes.2).mono fun t s₁ h₁ => (ih _).mono fun _ s₂ => h₁.trans

include hstop hinner in
theorem reads_alternatives (hunicode : src.unicode = false) {least : Nat} (hleast : stop ≠ [] → 0 < least)
    (size fuel : Nat) : Reads (alternatives inner size fuel) src s fun _ s' => Takes stop src least s s' := by
  induction fuel generalizing s with
  | zero => simpa [alternatives] using (Quiet.refl s).takes least
  | succ fuel ih =>
    simp only [alternatives, reads_bind, reads_peek, reads_atEnd, reads_ite, reads_advance, reads_pure]
    refine (reads_alternative hstop hinner hunicode _ _).mono fun a s₁ h₁ => ?_
    have hfirst : Takes stop src least s s₁ := ⟨h₁.groups, h₁.pos, fun depth _ => h₁.rest depth (Nat.zero_le _)⟩
    refine ⟨fun hbar => (ih (s := s₁.moved 1)).mono fun _ s₂ h₂ => ?_, fun _ => hfirst⟩
    have hbar : src.ahead s₁ 0 = 0x7C := by
      simp [code] at hbar
      exact hbar.1
    refine hfirst.trans (Takes.trans ?_ h₂)
    refine ⟨Nat.le_refl _, Nat.le_add_right _ _, fun depth hdepth => ?_⟩
    rw [rest_eq_cons src hbar (by decide), groupsBefore_bar fun hne => Nat.lt_of_lt_of_le (hleast hne) hdepth]
    simp

include hstop in
/-- Alternatives with groups nested up to a depth. -/
theorem reads_disjunction (hunicode : src.unicode = false) {least : Nat} (hleast : stop ≠ [] → 0 < least)
    (size depth : Nat) : Reads (disjunction size depth) src s fun _ s' => Takes stop src least s s' := by
  induction depth generalizing s least with
  | zero => simp [disjunction]
  | succ depth ih =>
    exact reads_alternatives hstop (fun s => ih fun _ => Nat.one_pos) hunicode hleast size (size + 1)

theorem reads_dollar (hdollar : src.ahead s 0 = 0x24) :
    Reads (bareTerm inner) src s fun a s' => a = (.lineEnd, false) ∧ s' = s.moved 1 := by
  simp only [bareTerm, reads_bind, reads_read, reads_peek]
  rw [hdollar, if_neg (by decide), if_pos (by decide)]
  simp

/-- The end of a line as an alternative. -/
theorem reads_lineEnd (size fuel : Nat) (hsize : 0 < size) (hrest : src.rest s = [0x24]) :
    Reads (alternatives inner size (fuel + 1)) src s fun node _ => node = .lineEnd := by
  obtain ⟨size, rfl⟩ := Nat.exists_eq_add_one_of_ne_zero (Nat.ne_of_gt hsize)
  have hlength : src.text.size - s.pos = 1 := by simpa [Source.rest] using congrArg List.length hrest
  have hdollar : src.ahead s 0 = 0x24 := by simp [Source.ahead, hrest]
  have hstart : ¬src.text.size ≤ s.pos := by omega
  have hend : src.text.size ≤ s.pos + 1 := by omega
  have hterm : Reads (term inner) src s fun node s' => node = .lineEnd ∧ s' = s.moved 1 := by
    simp only [term, reads_bind, reads_get]
    refine (reads_dollar hdollar).mono fun a s' h => ?_
    rw [h.1, h.2]
    simp
  have halternative : Reads (alternative inner (size + 2) .empty) src s fun node s' =>
      node = .lineEnd ∧ s' = s.moved 1 := by
    simp only [alternative, reads_bind, reads_atEnd, reads_ite, reads_peek, decide_eq_true_eq, hstart, hdollar]
    refine ⟨fun h => absurd h id, fun _ => ⟨fun h => absurd h (by decide), fun _ => ?_⟩⟩
    refine hterm.mono fun node s' h => ?_
    rw [h.1, h.2]
    simp [Nat.not_lt.mpr hend]
  simp only [alternatives, reads_bind, reads_peek, reads_atEnd]
  refine halternative.mono fun node s' h => ?_
  rw [h.1, h.2]
  simp [hend]

include hstop hinner in
/-- The last of some alternatives, if the last bar in the text is outside of all groups and before `$`. -/
theorem reads_lastAlternative (hunicode : src.unicode = false) {size fuel : Nat} (hsize : 0 < size)
    (hfuel : src.text.size < fuel + s.pos) (hbar : stop = [0x7C, 0x24])
    (hgroups : (groupsBefore stop 0 false false (src.rest s)).isSome) :
    Reads (alternatives inner size fuel) src s fun node s' => src.text.size ≤ s'.pos → EndsInLineEnd node := by
  have hnotEnd {t : ReaderState} (h : (groupsBefore stop 0 false false (src.rest t)).isSome) :
      t.pos < src.text.size := by
    cases Nat.lt_or_ge t.pos src.text.size with
    | inl hlt => exact hlt
    | inr hge =>
      rw [rest_eq_nil.mpr hge, hbar] at h
      cases h
  induction fuel generalizing s with
  | zero =>
    have hlt := hnotEnd hgroups
    omega
  | succ fuel ih =>
    simp only [alternatives, reads_bind, reads_peek, reads_atEnd, reads_ite, reads_advance, reads_pure]
    refine (reads_alternative hstop hinner hunicode _ _).mono fun a s₁ h₁ => ?_
    have hthere : (groupsBefore stop 0 false false (src.rest s₁)).isSome := by
      rw [h₁.rest 0 (Nat.zero_le 0)] at hgroups
      simpa using hgroups
    have hlt := hnotEnd hthere
    have hpos := h₁.pos
    refine ⟨fun hnext => ?_, fun _ hend => absurd hlt (Nat.not_lt.mpr hend)⟩
    have hahead : src.ahead s₁ 0 = 0x7C := by
      simp [code] at hnext
      exact hnext.1
    have hrest := rest_eq_cons src hahead (by decide)
    by_cases hlast : src.rest (s₁.moved 1) = [0x24]
    · obtain ⟨fuel, rfl⟩ := Nat.exists_eq_add_one_of_ne_zero (n := fuel) (by omega)
      refine (reads_lineEnd size fuel hsize hlast).mono fun node s₂ hnode _ => ?_
      rw [hnode]
      exact .alt a .lineEnd
    · have hne : stop ≠ 0x7C :: src.rest (s₁.moved 1) := by
        rw [hbar]
        intro h
        exact hlast (List.cons.inj h).2.symm
      have hlater : (groupsBefore stop 0 false false (src.rest (s₁.moved 1))).isSome := by
        rw [hrest] at hthere
        simpa [groupsBefore, hne] using hthere
      refine (ih (s := s₁.moved 1) (by rw [pos_moved]; omega) hlater).mono fun node s₂ h₂ hend => ?_
      exact .alt a (h₂ hend)

end Parser

end Steps

/-! ## Expressions -/

theorem parse_eq_ok {p : Units} {flags : Flags} {r : Regex} (hflags : flags.unicode = false)
    (h : Regex.parse p flags = .ok r) : ∃ src s, src.text.toList = codesOf p.toList ∧ src.unicode = false
      ∧ Parser.disjunction src.text.size (src.text.size + 2) src {} = .ok r.root s ∧ src.text.size ≤ s.pos
      ∧ r.groupCount = s.groups ∧ r.flags = flags := by
  unfold Regex.parse at h
  dsimp only at h
  rw [hflags] at h
  simp only [Bool.false_eq_true, if_false] at h
  generalize scanGroups _ _ _ _ _ _ = scanned at h
  generalize hsrc : Source.mk _ _ _ _ = src at h
  have htext : Array.map UInt16.toNat p = src.text := by rw [← hsrc]
  rw [htext] at h
  have hreads : Parser.Reads (do
      let node ← Parser.disjunction src.text.size (src.text.size + 2)
      if ← Parser.atEnd then return node
      else throw "extraneous characters at the end") src {} fun node s =>
        Parser.disjunction src.text.size (src.text.size + 2) src {} = .ok node s ∧ src.text.size ≤ s.pos := by
    simp only [Parser.reads_bind, Parser.reads_atEnd, Parser.reads_ite, Parser.reads_throw, Parser.reads_pure,
      decide_eq_true_eq, implies_true, and_true]
    exact fun node s hrun hend => ⟨hrun, hend⟩
  split at h
  · rename_i node s hrun
    cases h
    obtain ⟨hdisjunction, hend⟩ := hreads node s hrun
    exact ⟨src, s, by rw [codesOf, ← htext, Array.toList_map], by rw [← hsrc], hdisjunction, hend, rfl, rfl⟩
  · cases h

/-- The number of groups of an expression. -/
theorem groupCount_of_parse {p : Units} {flags : Flags} {r : Regex} (hflags : flags.unicode = false)
    (h : Regex.parse p flags = .ok r) : 0 < r.groupCount
      ∧ groupsBefore [] 0 false false (codesOf p.toList) = some (r.groupCount - 1) := by
  obtain ⟨src, s, htext, hunicode, hrun, hend, hcount, -⟩ := parse_eq_ok hflags h
  have hreads : Parser.Reads (Parser.disjunction src.text.size (src.text.size + 2)) src {} fun _ s' =>
      Takes [] src 0 {} s' := Parser.reads_disjunction (by simp) hunicode (by simp) _ _
  have htakes := hreads _ _ hrun
  have hrest := htakes.rest 0 (Nat.zero_le 0)
  rw [rest_eq_nil.mpr hend] at hrest
  rw [hcount]
  refine ⟨htakes.groups, ?_⟩
  rw [← htext]
  simpa [groupsBefore, Source.rest] using hrest

/-- An expression whose last alternative is the end of the line. -/
theorem endsInLineEnd_of_parse {p : Units} {flags : Flags} {r : Regex} (hflags : flags.unicode = false)
    (h : Regex.parse p flags = .ok r)
    (hgroups : (groupsBefore [0x7C, 0x24] 0 false false (codesOf p.toList)).isSome) :
    EndsInLineEnd r.root := by
  obtain ⟨src, s, htext, hunicode, hrun, hend, -⟩ := parse_eq_ok hflags h
  have hstop : ∀ c ∈ [0x7C, 0x24].head?, c = 0x7C := by simp
  have hsize : 0 < src.text.size := by
    cases hzero : src.text.toList with
    | nil =>
      rw [← htext, hzero] at hgroups
      cases hgroups
    | cons c cs =>
      have hlength := congrArg List.length hzero
      simp at hlength
      omega
  refine Parser.reads_lastAlternative hstop (fun s => Parser.reads_disjunction hstop hunicode (fun _ => Nat.one_pos) _ _)
    hunicode hsize (s := {}) ?_ rfl ?_ _ _ hrun hend
  · exact Nat.lt_succ_self _
  · rw [Source.rest, htext]
    simpa using hgroups

end ScriptHost.Regex
