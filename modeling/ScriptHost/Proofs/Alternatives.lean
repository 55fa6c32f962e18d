import ScriptHost.Proofs.Terms

/-!
# The groups of an alternative

A term has the groups that were counted while it was read, so alternatives that are read one after the other
have groups of their own.  A bar of the text that is outside of all parentheses parts the groups before it
from those behind it.

* `Node.Within` — a node with groups of a range only.
* `Parser.within_disjunction` — the groups of a node that was read.
* `apart_of_parse` — **no alternative has groups from both sides of a bar**.
-/

namespace ScriptHost.Regex

open Text

/-- A node with groups of a range only. -/
def Node.Within (lo hi : Nat) (node : Node) : Prop := ∀ i, node.Has i → lo ≤ i ∧ i < hi

/-- A node without groups. -/
def Node.Bare (node : Node) : Prop := ∀ i, ¬node.Has i

theorem Node.Bare.within {node : Node} (h : node.Bare) (lo hi : Nat) : node.Within lo hi :=
  fun i hi => absurd hi (h i)

theorem Node.Within.mono {node : Node} {lo hi lo' hi' : Nat} (h : node.Within lo hi) (hlo : lo' ≤ lo) (hhi : hi ≤ hi') :
    node.Within lo' hi' := by
  intro i hi
  obtain ⟨hfirst, hlast⟩ := h i hi
  exact ⟨Nat.le_trans hlo hfirst, Nat.lt_of_lt_of_le hlast hhi⟩

theorem Node.Within.seq {a b : Node} {lo hi : Nat} (ha : a.Within lo hi) (hb : b.Within lo hi) :
    (Node.seq a b).Within lo hi := fun i hi => hi.elim (ha i) (hb i)

theorem Node.Within.alt {a b : Node} {lo hi : Nat} (ha : a.Within lo hi) (hb : b.Within lo hi) :
    (Node.alt a b).Within lo hi := fun i hi => hi.elim (ha i) (hb i)

variable {src : Source} {s : ReaderState}

namespace Parser

theorem Reads.of_forall {α : Type} {x : Parser α} {Q : α → ReaderState → Prop} (h : ∀ a s', Q a s') :
    Reads x src s Q := fun a s' _ => h a s'

theorem Reads.and {α : Type} {x : Parser α} {P Q : α → ReaderState → Prop} (h : Reads x src s P)
    (h' : Reads x src s Q) : Reads x src s fun a s' => P a s' ∧ Q a s' :=
  fun a s' hrun => ⟨h a s' hrun, h' a s' hrun⟩

/-! ## Terms without groups -/

theorem bare_atom : Reads (atom false) src s fun a _ => a.node.Bare := by
  refine .of_forall fun a _ => ?_
  cases a with
  | code c => exact fun _ h => h
  | set ranges => exact fun _ h => h

theorem bare_charClass : Reads charClass src s fun node _ => node.Bare := by
  simp only [charClass, reads_bind, reads_read, reads_peek, reads_ite, reads_pure, reads_advance]
  have hset {ranges : List (Nat × Nat)} {inverted : Bool} : (Node.set ⟨inverted, ranges⟩).Bare := fun _ h => h
  exact ⟨fun _ => .of_forall fun _ _ => hset, fun _ => .of_forall fun _ _ => hset⟩

theorem bare_namedReference : Reads namedReference src s fun a _ => a.1.Bare := by
  have hreference (i : Nat) : (Node.backReference i).Bare := fun _ h => h
  simp only [namedReference, reads_bind, reads_read, reads_peek, reads_ite, reads_throw, reads_pure, reads_get,
    reads_advance, implies_true, true_and]
  refine ⟨fun _ _ => bare_atom, fun _ => .of_forall fun a s' => ?_⟩
  cases a with
  | none => simpa using fun _ _ => bare_atom
  | some name =>
    simp only [reads_bind, reads_read]
    cases src.allNames.lookup name with
    | some i => simpa using hreference i
    | none => simpa using fun _ _ => bare_atom

theorem bare_numberedReference : Reads numberedReference src s fun a _ => a.1.Bare := by
  have hchar (c : Nat) : (Node.char c).Bare := fun _ h => h
  have hreference (i : Nat) : (Node.backReference i).Bare := fun _ h => h
  simp only [numberedReference, reads_bind, reads_read, reads_peek, reads_ite, reads_throw, reads_pure,
    reads_get, reads_advance, reads_modify, hchar, hreference, implies_true, and_true]
  exact .of_forall fun _ _ => trivial

theorem bare_zeroEscape : Reads zeroEscape src s fun a _ => a.1.Bare := by
  have hchar (c : Nat) : (Node.char c).Bare := fun _ h => h
  simp [zeroEscape, hchar]

/-! ## Terms with groups -/

section Inner

variable {inner : Parser Node} (hunicode : src.unicode = false)
  (hinner : ∀ s, Reads inner src s fun node s' => s.groups ≤ s'.groups ∧ node.Within s.groups s'.groups)

include hinner in
theorem within_capture : Reads (capture inner) src s fun a s' => a.1.Within s.groups s'.groups := by
  simp only [capture, reads_bind, reads_get, reads_modify, reads_expect, reads_pure]
  refine (hinner _).mono fun body s' h _ _ i hi => ?_
  obtain ⟨hgroups, hwithin⟩ := h
  have hgroups : s.groups + 1 ≤ s'.groups := hgroups
  rcases hi with rfl | hi
  · exact ⟨Nat.le_refl _, hgroups⟩
  · obtain ⟨hfirst, hlast⟩ := hwithin i hi
    exact ⟨Nat.le_of_succ_le hfirst, hlast⟩

include hunicode hinner in
theorem within_parenthesised : Reads (parenthesised inner) src s fun a s' => a.1.Within s.groups s'.groups := by
  simp only [parenthesised, reads_bind, reads_peek, reads_ite, reads_advance, reads_read, reads_expect, reads_pure,
    reads_throw, implies_true, and_true]
  have hplain {n : Nat} : Reads inner src (s.moved n) fun node s' => src.ahead s' 0 = code ')' →
      s'.pos < src.text.size → node.Within s.groups (s'.moved 1).groups := (hinner _).mono fun _ _ h _ _ => h.2
  refine ⟨fun _ => within_capture hinner, fun _ => ⟨fun _ => hplain, fun _ => ⟨fun _ => hplain, fun _ =>
    ⟨fun _ => hplain, fun _ _ => ?_⟩⟩⟩⟩
  have hstop : ∀ c ∈ ([] : List Nat).head?, c = 0x7C := by simp
  refine (reads_groupName false hstop hunicode).mono fun a s₁ h₁ => ?_
  cases a with
  | none => simp
  | some name =>
    simp only [reads_bind, reads_get, reads_ite, reads_throw, reads_set, implies_true, true_and]
    intro _
    have hgroups : s₁.groups = s.groups := h₁.groups
    rw [← hgroups]
    exact within_capture hinner

include hunicode hinner in
theorem within_bareTerm : Reads (bareTerm inner) src s fun a s' => a.1.Within s.groups s'.groups := by
  have hmark {node : Node} {lo hi : Nat} (hbare : node.Bare) : node.Within lo hi := hbare.within lo hi
  have hquiet {x : Parser Term} {t : ReaderState} (h : Reads x src t fun a _ => a.1.Bare) :
      Reads x src t fun a s' => a.1.Within s.groups s'.groups := h.mono fun _ _ h => h.within _ _
  have hatom {t : ReaderState} : Reads (atom false) src t fun a s' => a.node.Within s.groups s'.groups :=
    bare_atom.mono fun _ _ h => h.within _ _
  simp only [bareTerm, hunicode, reads_bind, reads_read, reads_peek, reads_ite, reads_throw, reads_pure, reads_advance,
    Bool.false_eq_true, true_and, not_false_eq_true, true_implies, implies_true]
  refine ⟨fun _ => hmark fun _ h => h, fun _ => ⟨fun _ => hmark fun _ h => h, fun _ => ⟨fun _ => hmark fun _ h => h,
    fun _ => ⟨fun _ => ⟨fun _ => hatom, fun _ => .of_forall fun _ _ _ => hatom⟩, fun _ _ =>
      ⟨fun _ => within_parenthesised hunicode hinner, fun _ => ⟨fun _ => ?_, fun _ =>
        ⟨fun _ => bare_charClass.mono fun _ _ h => h.within _ _, fun _ _ => hatom⟩⟩⟩⟩⟩⟩⟩
  exact ⟨fun _ => hmark fun _ h => h, fun _ => ⟨fun _ => hquiet bare_namedReference, fun _ =>
    ⟨fun _ => hquiet bare_zeroEscape, fun _ => ⟨fun _ => hquiet bare_numberedReference, fun _ => hatom⟩⟩⟩⟩

include hunicode hinner in
theorem within_term : Reads (term inner) src s fun node s' => node.Within s.groups s'.groups := by
  simp only [term, reads_bind, reads_get]
  refine (within_bareTerm hunicode hinner).mono ?_
  rintro ⟨node, repeatable⟩ s₁ h₁
  simp only [reads_ite, reads_pure, reads_bind]
  have hstop : ∀ c ∈ ([] : List Nat).head?, c = 0x7C := by simp
  refine ⟨fun _ => h₁, fun _ => (reads_bounds hstop hunicode).mono fun count s₂ h₂ => ?_⟩
  rw [← h₂.groups] at h₁
  cases count with
  | none => simpa using h₁
  | some count =>
    simp only [reads_bind, reads_peek, reads_ite, reads_advance, reads_get, reads_pure]
    exact ⟨fun _ => h₁, fun _ => h₁⟩

end Inner

/-! ## Alternatives -/

section Alternatives

variable {stop : List Nat} (hstop : ∀ c ∈ stop.head?, c = 0x7C) (hunicode : src.unicode = false) {inner : Parser Node}
  (htakes : ∀ s, Reads inner src s fun _ s' => Takes stop src 1 s s')
  (hwithin : ∀ s, Reads inner src s fun node s' => node.Within s.groups s'.groups)
include hstop hunicode htakes hwithin

theorem within_alternative (fuel : Nat) {acc : Node} {lo : Nat} (hlo : lo ≤ s.groups) (hacc : acc.Within lo s.groups) :
    Reads (alternative inner fuel acc) src s fun node s' => node.Within lo s'.groups := by
  have hinner (s : ReaderState) : Reads inner src s fun node s' =>
      s.groups ≤ s'.groups ∧ node.Within s.groups s'.groups :=
    ((htakes s).mono fun _ _ h => h.groups).and (hwithin s)
  induction fuel generalizing acc s with
  | zero => simpa [alternative] using hacc
  | succ fuel ih =>
    simp only [alternative, reads_bind, reads_atEnd, reads_ite, reads_pure, reads_peek]
    refine ⟨fun _ => hacc, fun _ => ⟨fun _ => hacc, fun hgoes => ?_⟩⟩
    simp [code] at hgoes
    refine ((reads_term hstop htakes hunicode hgoes.1 hgoes.2).and (within_term hunicode hinner)).mono fun t s₁ h₁ => ?_
    obtain ⟨htaken, ht⟩ := h₁
    have hgroups := htaken.groups
    refine ih (Nat.le_trans hlo hgroups) ?_
    have hterm : t.Within lo s₁.groups := ht.mono hlo (Nat.le_refl _)
    split
    · exact hterm
    · exact (hacc.mono (Nat.le_refl _) hgroups).seq hterm

theorem within_alternatives (size fuel : Nat) :
    Reads (alternatives inner size fuel) src s fun node s' => node.Within s.groups s'.groups := by
  have hempty {lo hi : Nat} : Node.empty.Within lo hi := fun _ h => h.elim
  induction fuel generalizing s with
  | zero => simpa [alternatives] using hempty
  | succ fuel ih =>
    simp only [alternatives, reads_bind, reads_peek, reads_atEnd, reads_ite, reads_advance, reads_pure]
    refine ((reads_alternative hstop htakes hunicode _ _).and
      (within_alternative hstop hunicode htakes hwithin _ (Nat.le_refl _) hempty)).mono fun a s₁ h₁ => ?_
    obtain ⟨htaken, ha⟩ := h₁
    refine ⟨fun _ => ?_, fun _ => ha⟩
    refine ((reads_alternatives hstop htakes hunicode (fun _ => Nat.one_pos) size fuel).and (ih (s := s₁.moved 1))).mono
      fun b s₂ h₂ => ?_
    obtain ⟨hrest, hb⟩ := h₂
    exact (ha.mono (Nat.le_refl _) hrest.groups).alt (hb.mono htaken.groups (Nat.le_refl _))

end Alternatives

/-- The groups of a node are those that were counted while it was read. -/
theorem within_disjunction (hunicode : src.unicode = false) (size depth : Nat) :
    Reads (disjunction size depth) src s fun node s' => node.Within s.groups s'.groups := by
  have hstop : ∀ c ∈ ([] : List Nat).head?, c = 0x7C := by simp
  induction depth generalizing s with
  | zero => simp [disjunction]
  | succ depth ih =>
    have htakes (s : ReaderState) : Reads (disjunction size depth) src s fun _ s' => Takes [] src 1 s s' :=
      reads_disjunction hstop hunicode (fun _ => Nat.one_pos) size depth
    exact within_alternatives hstop hunicode htakes (fun _ => ih) size (size + 1)

/-- Alternatives on both sides of a bar have no groups in common. -/
theorem reads_apart {stop : List Nat} (hstop : ∀ c ∈ stop.head?, c = 0x7C) (hunicode : src.unicode = false)
    {inner : Parser Node} (htakes : ∀ s, Reads inner src s fun _ s' => Takes stop src 1 s s')
    (hwithin : ∀ s, Reads inner src s fun node s' => node.Within s.groups s'.groups) {n : Nat}
    (hgroups : groupsBefore stop 0 false false (src.rest s) = some n) {i j : Nat} (hi : i < s.groups + n)
    (hj : s.groups + n ≤ j) (size fuel : Nat) :
    Reads (alternatives inner size fuel) src s fun node _ => Apart i j node := by
  induction fuel generalizing s n with
  | zero =>
    simp only [alternatives, reads_pure]
    exact .without (.inl fun h => h)
  | succ fuel ih =>
    simp only [alternatives, reads_bind, reads_peek, reads_atEnd, reads_ite, reads_advance, reads_pure]
    have hempty : Node.empty.Within s.groups s.groups := fun _ h => h.elim
    refine ((reads_alternative hstop htakes hunicode _ _).and
      (within_alternative hstop hunicode htakes hwithin _ (Nat.le_refl _) hempty)).mono fun a s₁ h₁ => ?_
    obtain ⟨htaken, ha⟩ := h₁
    obtain ⟨m, hm, hn⟩ : ∃ m, groupsBefore stop 0 false false (src.rest s₁) = some m
        ∧ m + (s₁.groups - s.groups) = n := by
      rw [htaken.rest 0 (Nat.le_refl 0)] at hgroups
      exact Option.map_eq_some_iff.mp hgroups
    have hle := htaken.groups
    have hfirst : Apart i j a := .without (.inr fun h => by
      have hlast := (ha j h).2
      omega)
    refine ⟨fun hbar => ?_, fun _ => hfirst⟩
    have hbar : src.ahead s₁ 0 = 0x7C := by
      simp [code] at hbar
      exact hbar.1
    have hrest := rest_eq_cons src hbar (by decide)
    by_cases hlast : stop = 0x7C :: src.rest (s₁.moved 1)
    · -- the bar between the groups
      have hzero : m = 0 := by
        rw [hrest] at hm
        simpa [groupsBefore, hlast, eq_comm] using hm
      refine (within_alternatives hstop hunicode htakes hwithin size fuel).mono fun b s₂ hb => ?_
      refine .alt hfirst (.without (.inl fun h => ?_))
      have hlater := (hb i h).1
      rw [groups_moved] at hlater
      omega
    · have hm : groupsBefore stop 0 false false (src.rest (s₁.moved 1)) = some m := by
        rw [hrest] at hm
        simpa [groupsBefore, hlast] using hm
      refine (ih hm (by rw [groups_moved]; omega) (by rw [groups_moved]; omega)).mono fun b _ hb => ?_
      exact .alt hfirst hb

end Parser

/-- No alternative of an expression has groups from both sides of a bar. -/
theorem apart_of_parse {p : Units} {flags : Flags} {r : Regex} (hflags : flags.unicode = false)
    (h : Regex.parse p flags = .ok r) {stop : List Nat} (hstop : ∀ c ∈ stop.head?, c = 0x7C) {n : Nat}
    (hgroups : groupsBefore stop 0 false false (codesOf p.toList) = some n) {i j : Nat} (hi : i < n + 1)
    (hj : n + 1 ≤ j) : Apart i j r.root := by
  obtain ⟨src, s, htext, hunicode, hrun, -⟩ := parse_eq_ok hflags h
  have htakes (s : ReaderState) : Parser.Reads (Parser.disjunction src.text.size (src.text.size + 1)) src s
      fun _ s' => Takes stop src 1 s s' := Parser.reads_disjunction hstop hunicode (fun _ => Nat.one_pos) _ _
  have hrest : groupsBefore stop 0 false false (src.rest {}) = some n := by
    rw [Source.rest, htext]
    exact hgroups
  have hi : i < ({} : ReaderState).groups + n := by
    change i < 1 + n
    omega
  have hj : ({} : ReaderState).groups + n ≤ j := by
    change 1 + n ≤ j
    omega
  exact Parser.reads_apart hstop hunicode htakes (fun _ => Parser.within_disjunction hunicode _ _) hrest hi hj _ _ _ _
    hrun

end ScriptHost.Regex
