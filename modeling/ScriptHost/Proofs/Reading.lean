import ScriptHost.Regex.Parser
import ScriptHost.Proofs.Grouping

/-!
# What a reader of expressions takes

A reader moves over the text of an expression.  The step over an escape, a class or a name is quiet: the text
that it takes holds no parenthesis with a meaning, so the groups of what is left are those from before.

* `Reads` — what holds of every answer of a reader and of the state it leaves.
* `Quiet` — a step over text in which no group begins or ends.
* `reads_atom`, `reads_charClass`, `reads_groupName` — the steps that are quiet.
-/

namespace ScriptHost.Regex

open Text

variable {α β : Type}

/-! ## Readers -/

/-- What is left to read. -/
def Source.rest (src : Source) (s : ReaderState) : List Nat := src.text.toList.drop s.pos

/-- The code point at an offset, or 0 at the end. -/
def Source.ahead (src : Source) (s : ReaderState) (offset : Nat) : Nat := (src.rest s).getD offset 0

/-- The state after some code points. -/
def ReaderState.moved (s : ReaderState) (n : Nat) : ReaderState := { s with pos := s.pos + n }

@[simp] theorem groups_moved (s : ReaderState) (n : Nat) : (s.moved n).groups = s.groups := rfl

@[simp] theorem pos_moved (s : ReaderState) (n : Nat) : (s.moved n).pos = s.pos + n := rfl

@[simp] theorem moved_moved (s : ReaderState) (m n : Nat) : (s.moved m).moved n = s.moved (m + n) := by
  simp [ReaderState.moved, Nat.add_assoc]

theorem rest_moved (src : Source) (s : ReaderState) (n : Nat) : src.rest (s.moved n) = (src.rest s).drop n := by
  simp [Source.rest, ReaderState.moved, List.drop_drop]

theorem rest_eq (src : Source) {s s' : ReaderState} (h : s'.pos = s.pos) : src.rest s' = src.rest s := by
  rw [Source.rest, Source.rest, h]

theorem ahead_eq (src : Source) {s s' : ReaderState} (h : s'.pos = s.pos) (offset : Nat) :
    src.ahead s' offset = src.ahead s offset := by
  rw [Source.ahead, Source.ahead, rest_eq src h]

@[simp] theorem ahead_moved (src : Source) (s : ReaderState) (n offset : Nat) :
    src.ahead (s.moved n) offset = src.ahead s (n + offset) := by
  simp [Source.ahead, rest_moved, List.getD_eq_getElem?_getD]

theorem rest_eq_nil {src : Source} {s : ReaderState} : src.rest s = [] ↔ src.text.size ≤ s.pos := by
  simp [Source.rest]

/-- Where something other than 0 stands ahead, it is what is read next. -/
theorem rest_eq_cons (src : Source) {s : ReaderState} {c : Nat} (h : src.ahead s 0 = c) (hc : c ≠ 0) :
    src.rest s = c :: src.rest (s.moved 1) := by
  rw [rest_moved]
  rw [Source.ahead] at h
  cases hrest : src.rest s with
  | nil => simp [hrest, hc.symm] at h
  | cons d ds =>
    rw [hrest] at h
    rw [← h]
    rfl

namespace Parser

/-- Whatever a reader answers has a property, together with the state that it leaves. -/
def Reads (x : Parser α) (src : Source) (s : ReaderState) (Q : α → ReaderState → Prop) : Prop :=
  ∀ a s', x src s = .ok a s' → Q a s'

variable {src : Source} {s : ReaderState} {Q : α → ReaderState → Prop}

theorem Reads.mono {x : Parser α} {Q' : α → ReaderState → Prop} (h : Reads x src s Q)
    (himp : ∀ a s', Q a s' → Q' a s') : Reads x src s Q' :=
  fun a s' hrun => himp a s' (h a s' hrun)

@[simp] theorem reads_pure {a : α} : Reads (pure a) src s Q ↔ Q a s := by
  constructor
  · intro h
    exact h a s rfl
  · rintro h _ _ ⟨⟩
    exact h

@[simp] theorem reads_bind {x : Parser α} {f : α → Parser β} {Q : β → ReaderState → Prop} :
    Reads (x >>= f) src s Q ↔ Reads x src s fun a s' => Reads (f a) src s' Q := by
  have hbind : (x >>= f) src s = match x src s with
    | .ok a s' => f a src s'
    | .error e s' => .error e s' := by
    change EStateM.bind (x src) (fun a => f a src) s = _
    unfold EStateM.bind
    cases x src s <;> rfl
  constructor
  · intro h a s' hx b s'' hf
    exact h b s'' (by rw [hbind, hx]; exact hf)
  · intro h b s'' hrun
    rw [hbind] at hrun
    split at hrun
    · exact h _ _ ‹_› _ _ hrun
    · cases hrun

@[simp] theorem reads_map {x : Parser α} {f : α → β} {Q : β → ReaderState → Prop} :
    Reads (f <$> x) src s Q ↔ Reads x src s fun a s' => Q (f a) s' := by
  rw [map_eq_pure_bind, reads_bind]
  simp only [reads_pure]

@[simp] theorem reads_throw {e : String} : Reads (throw e : Parser α) src s Q := by
  rintro _ _ ⟨⟩

@[simp] theorem reads_get {Q : ReaderState → ReaderState → Prop} : Reads get src s Q ↔ Q s s := by
  constructor
  · intro h
    exact h s s rfl
  · rintro h _ _ ⟨⟩
    exact h

@[simp] theorem reads_read {Q : Source → ReaderState → Prop} : Reads read src s Q ↔ Q src s := by
  constructor
  · intro h
    exact h src s rfl
  · rintro h _ _ ⟨⟩
    exact h

@[simp] theorem reads_modify {f : ReaderState → ReaderState} {Q : Unit → ReaderState → Prop} :
    Reads (modify f) src s Q ↔ Q () (f s) := by
  constructor
  · intro h
    exact h () (f s) rfl
  · rintro h _ _ ⟨⟩
    exact h

@[simp] theorem reads_set {t : ReaderState} {Q : Unit → ReaderState → Prop} :
    Reads (set t) src s Q ↔ Q () t := by
  constructor
  · intro h
    exact h () t rfl
  · rintro h _ _ ⟨⟩
    exact h

@[simp] theorem reads_ite {p : Prop} [Decidable p] {x y : Parser α} :
    Reads (if p then x else y) src s Q ↔ (p → Reads x src s Q) ∧ (¬p → Reads y src s Q) := by
  split <;> simp [*]

@[simp] theorem reads_peek {offset : Nat} {Q : Nat → ReaderState → Prop} :
    Reads (peek offset) src s Q ↔ Q (src.ahead s offset) s := by
  simp [peek, Source.ahead, Source.rest]

@[simp] theorem reads_atEnd {Q : Bool → ReaderState → Prop} :
    Reads atEnd src s Q ↔ Q (decide (src.text.size ≤ s.pos)) s := by
  simp [atEnd]

@[simp] theorem reads_advance {n : Nat} {Q : Unit → ReaderState → Prop} :
    Reads (advance n) src s Q ↔ Q () (s.moved n) := by
  simp [advance, ReaderState.moved]

@[simp] theorem reads_expect {c : Char} {Q : Unit → ReaderState → Prop} :
    Reads (expect c) src s Q ↔ (src.ahead s 0 = code c → s.pos < src.text.size → Q () (s.moved 1)) := by
  simp [expect]

end Parser

/-! ## Steps of a reader -/

section Steps

variable {stop : List Nat} {src : Source} {s s' s'' : ReaderState} {inClass : Bool}

/-- A step over text in which no group begins or ends, and no class. -/
structure Quiet (stop : List Nat) (src : Source) (inClass : Bool) (s s' : ReaderState) : Prop where
  groups : s'.groups = s.groups
  pos : s.pos ≤ s'.pos
  rest : ∀ depth, groupsBefore stop depth inClass false (src.rest s) = groupsBefore stop depth inClass false (src.rest s')

theorem Quiet.refl (s : ReaderState) : Quiet stop src inClass s s := ⟨rfl, Nat.le_refl _, fun _ => rfl⟩

theorem Quiet.trans (h : Quiet stop src inClass s s') (h' : Quiet stop src inClass s' s'') :
    Quiet stop src inClass s s'' :=
  ⟨h'.groups.trans h.groups, Nat.le_trans h.pos h'.pos, fun depth => (h.rest depth).trans (h'.rest depth)⟩

theorem Quiet.of_eq (hpos : s'.pos = s.pos) (hgroups : s'.groups = s.groups) : Quiet stop src inClass s s' :=
  ⟨hgroups, Nat.le_of_eq hpos.symm, fun _ => by rw [rest_eq src hpos]⟩

/-- The state may go back to where the step began. -/
theorem Quiet.back (h : Quiet stop src inClass s s') {n : Nat} (hn : n = s.pos) :
    Quiet stop src inClass s { s' with pos := n } :=
  ⟨h.groups, Nat.le_of_eq hn.symm, fun _ => (congrArg _ (rest_eq src hn)).symm⟩

theorem Quiet.one (hstop : ∀ c ∈ stop.head?, c = 0x7C) (h : isSpecial inClass (src.ahead s 0) = false) :
    Quiet stop src inClass s (s.moved 1) := by
  refine ⟨rfl, Nat.le_add_right _ _, fun depth => ?_⟩
  rw [rest_moved]
  rw [Source.ahead] at h
  cases hrest : src.rest s with
  | nil => rfl
  | cons c cs =>
    rw [hrest] at h
    exact groupsBefore_inert hstop h depth cs

/-- The same over several code points. -/
theorem Quiet.many (hstop : ∀ c ∈ stop.head?, c = 0x7C) {n : Nat}
    (h : ∀ i < n, isSpecial inClass (src.ahead s i) = false) : Quiet stop src inClass s (s.moved n) := by
  induction n with
  | zero => exact .refl s
  | succ n ih =>
    have hone : Quiet stop src inClass (s.moved n) ((s.moved n).moved 1) := .one hstop (by
      rw [ahead_moved]
      exact h n (Nat.lt_succ_self n))
    rw [moved_moved] at hone
    exact (ih fun i hi => h i (Nat.lt_succ_of_lt hi)).trans hone

/-- A backslash and what is behind it. -/
theorem Quiet.pair (hstop : ∀ c ∈ stop.head?, c = 0x7C) (h : src.ahead s 0 = 0x5C) (hsize : s.pos + 1 < src.text.size) :
    Quiet stop src inClass s (s.moved 2) := by
  refine ⟨rfl, Nat.le_add_right _ _, fun depth => ?_⟩
  have hrest := rest_eq_cons src h (by decide)
  cases hnext : src.rest (s.moved 1) with
  | nil =>
    have hend := rest_eq_nil.mp hnext
    rw [pos_moved] at hend
    omega
  | cons c cs =>
    rw [hrest, hnext, groupsBefore_pair hstop, rest_moved, ← List.drop_drop (i := 1) (j := 1), ← rest_moved, hnext]
    rfl

/-- A backslash alone, before what has no meaning of its own. -/
theorem Quiet.slash (hstop : ∀ c ∈ stop.head?, c = 0x7C) (h : src.ahead s 0 = 0x5C) (hsize : s.pos + 1 < src.text.size)
    (hnext : isSpecial inClass (src.ahead s 1) = false) : Quiet stop src inClass s (s.moved 1) := by
  have hone : Quiet stop src inClass (s.moved 1) ((s.moved 1).moved 1) := .one hstop (by rwa [ahead_moved])
  refine ⟨rfl, Nat.le_add_right _ _, fun depth => ?_⟩
  rw [(Quiet.pair hstop h hsize).rest, hone.rest, moved_moved]

/-! ### Numbers and escapes -/

namespace Parser

variable (hstop : ∀ c ∈ stop.head?, c = 0x7C) (inClass)

theorem not_special_of_code {c : Nat}
    (h : c ≠ 0x5C ∧ c ≠ 0x5D ∧ c ≠ 0x5B ∧ c ≠ 0x28 ∧ c ≠ 0x29 ∧ c ≠ 0x7C) : isSpecial inClass c = false := by
  cases inClass <;> simp [isSpecial, h]

theorem not_special_of_octal {c : Nat} (hlo : 0x30 ≤ c) (hhi : c ≤ 0x37) : isSpecial inClass c = false :=
  not_special_of_code inClass (by omega)

theorem not_special_of_isDigit {c : Nat} (h : isDigit c) : isSpecial inClass c = false := by
  simp only [isDigit, Bool.and_eq_true, decide_eq_true_eq] at h
  exact not_special_of_code inClass (by omega)

theorem not_special_of_hexDigit {c : Nat} (h : (hexDigit? c).isSome) : isSpecial inClass c = false := by
  have hrange : 0x30 ≤ c ∧ c ≤ 0x39 ∨ 0x41 ≤ c ∧ c ≤ 0x46 ∨ 0x61 ≤ c ∧ c ≤ 0x66 := by
    simp only [hexDigit?, isDigit] at h
    grind
  exact not_special_of_code inClass (by omega)

include hstop in
theorem reads_digits (fuel acc n : Nat) :
    Reads (digits fuel acc n) src s fun _ s' => Quiet stop src inClass s s' := by
  induction fuel generalizing acc n s with
  | zero => simp [digits, Quiet.refl]
  | succ fuel ih =>
    simp only [digits, reads_bind, reads_peek, reads_ite, reads_pure, reads_advance, Quiet.refl, implies_true,
      and_true]
    intro hdigit
    exact (ih _ _).mono fun _ s' => (Quiet.one hstop (not_special_of_isDigit _ hdigit)).trans

include hstop in
theorem reads_number : Reads number src s fun _ s' => Quiet stop src inClass s s' := by
  simp only [number, reads_bind, reads_get, reads_read, reads_pure]
  exact reads_digits inClass hstop _ _ _

theorem reads_hexAt (offset n acc : Nat) : Reads (hexAt offset n acc) src s fun a s' =>
    s' = s ∧ (a.isSome → ∀ i < n, isSpecial inClass (src.ahead s (offset + i)) = false) := by
  induction n generalizing offset acc with
  | zero => simp [hexAt]
  | succ n ih =>
    simp only [hexAt, reads_bind, reads_peek]
    cases hdigit : hexDigit? (src.ahead s offset) with
    | none => simp
    | some d =>
      refine (ih (offset + 1) _).mono fun a s' h => ⟨h.1, fun ha i hi => ?_⟩
      cases i with
      | zero => exact not_special_of_hexDigit _ (by simp [hdigit])
      | succ i =>
        have hrest := h.2 ha i (Nat.lt_of_succ_lt_succ hi)
        rwa [Nat.add_right_comm] at hrest

include hstop in
theorem reads_hexEscape (hunicode : src.unicode = false) (width : Nat) :
    Reads (hexEscape width) src s fun _ s' => Quiet stop src inClass s s' := by
  simp only [hexEscape, hunicode, Bool.and_false, Bool.false_and, Bool.false_eq_true, if_false, reads_bind, reads_read,
    reads_peek]
  refine (reads_hexAt inClass 0 width 0).mono fun a s' h => ?_
  obtain ⟨rfl, h⟩ := h
  cases a with
  | none => simp [Quiet.refl]
  | some c =>
    simp only [reads_bind, reads_advance, reads_peek, reads_pure]
    refine .many hstop fun i hi => ?_
    have hi := h rfl i hi
    rwa [Nat.zero_add] at hi

include hstop in
theorem reads_octalTail (first : Nat) :
    Reads (octalTail first) src s fun _ s' => Quiet stop src inClass s s' := by
  simp only [octalTail, reads_bind, reads_peek, reads_ite, reads_pure, reads_advance, Quiet.refl, implies_true,
    and_true, Bool.and_eq_true, decide_eq_true_eq]
  rintro ⟨hlo, hhi⟩
  have hone : Quiet stop src inClass s (s.moved 1) := .one hstop (not_special_of_octal inClass hlo hhi)
  refine ⟨fun hsecond => ?_, fun _ => hone⟩
  exact hone.trans (.one hstop (not_special_of_octal inClass hsecond.2.1 hsecond.2.2))

include hstop in
/-- A character escape takes its text, or nothing. -/
theorem reads_escape (hunicode : src.unicode = false) : Reads escape src s fun a s' => match a with
    | .code _ => Quiet stop src inClass (s.moved 1) s'
    | _ => s'.pos = s.pos ∧ s'.groups = s.groups := by
  have hquiet : Quiet stop src inClass (s.moved 1) (s.moved 1) := .refl _
  have hhex (width : Nat) : Reads (hexEscape width) src (s.moved 1) fun a s' => Reads (match a with
      | .code _ => (pure a : Parser Escape)
      | _ => do
        modify fun t => { t with pos := s.pos }
        pure a) src s' fun a s' => match a with
      | .code _ => Quiet stop src inClass (s.moved 1) s'
      | _ => s'.pos = s.pos ∧ s'.groups = s.groups := by
    refine (reads_hexEscape inClass hstop hunicode width).mono fun a s' h => ?_
    cases a with
    | code c => simpa using h
    | malformed => simpa using h.groups
    | notAnEscape => simpa using h.groups
  simp only [escape, hunicode, reads_bind, reads_peek, reads_ite, reads_pure, reads_advance, reads_read, reads_get,
    Bool.false_eq_true, hquiet, implies_true, true_and, and_true]
  intro _ _ _ _ _ _
  refine ⟨fun _ => hhex 2, fun _ => ⟨fun _ => hhex 4, fun _ _ _ => ?_⟩⟩
  exact reads_octalTail inClass hstop _

include hstop in
/-- An atom takes its text, and there is one. -/
theorem reads_atom (hunicode : src.unicode = false)
    (hfirst : src.ahead s 0 ≠ 0x5C → s.pos < src.text.size → isSpecial inClass (src.ahead s 0) = false) :
    Reads (atom inClass) src s fun _ s' =>
      Quiet stop src inClass s s' ∧ s.pos < s'.pos ∧ s.pos < src.text.size := by
  simp only [atom, plain, hunicode, reads_bind, reads_read, reads_atEnd, reads_ite, reads_throw, reads_pure, reads_peek,
    reads_advance, implies_true, true_and, decide_eq_true_eq, Nat.not_le]
  intro hsize
  refine ⟨fun hplain => ?_, fun hbackslash hnextSize => ?_⟩
  · have hne : src.ahead s 0 ≠ 0x5C := by simpa [code] using hplain
    exact ⟨.one hstop (hfirst hne hsize), Nat.lt_succ_self _, hsize⟩
  · have hslash : src.ahead s 0 = 0x5C := by simpa [code] using hbackslash
    have hpair : Quiet stop src inClass s ((s.moved 1).moved 1) := by
      rw [moved_moved]
      exact .pair hstop hslash (by simpa using hnextSize)
    have hmoved : s.pos < ((s.moved 1).moved 1).pos := by
      rw [moved_moved, pos_moved]
      omega
    have hend {s' : ReaderState} (h : Quiet stop src inClass ((s.moved 1).moved 1) s') :
        Quiet stop src inClass s s' ∧ s.pos < s'.pos ∧ s.pos < src.text.size :=
      ⟨hpair.trans h, Nat.lt_of_lt_of_le hmoved h.pos, hsize⟩
    cases hset : setOf? (src.ahead (s.moved 1) 0) with
    | some ranges =>
      simp only [reads_bind, reads_advance, reads_pure]
      exact hend (.refl _)
    | none =>
      simp only [reads_bind, reads_advance, reads_pure, reads_ite, reads_peek, reads_throw, Bool.false_eq_true,
        implies_true, Bool.and_false, not_false_eq_true, true_implies, true_and, Bool.not_false, Bool.or_true,
        Bool.true_or]
      have hplain {s' : ReaderState} (hpos : s'.pos = (s.moved 1).pos) (hgroups : s'.groups = (s.moved 1).groups) :
          Quiet stop src inClass s (s'.moved 1) ∧ s.pos < (s'.moved 1).pos ∧ s.pos < src.text.size :=
        hend (.of_eq (congrArg (· + 1) hpos) hgroups)
      refine ⟨fun hc => ⟨fun hletter => ?_, fun _ => ?_⟩, fun _ => ?_⟩
      · have hthird : Quiet stop src inClass ((s.moved 1).moved 1) (((s.moved 1).moved 1).moved 1) := .one hstop (by
          simp only [ahead_moved, Nat.reduceAdd] at hletter ⊢
          refine not_special_of_code inClass ?_
          simp [isDigit, code] at hletter
          omega)
        rw [moved_moved (s.moved 1)] at hthird
        exact hend hthird
      · -- the backslash stands for itself, and the letter is read next
        have hnext : isSpecial inClass (src.ahead s 1) = false := by
          rw [show src.ahead s 1 = 0x63 by simpa [code] using hc]
          exact not_special_of_code inClass (by decide)
        exact ⟨.slash hstop hslash (by simpa using hnextSize) hnext, Nat.lt_succ_self _, hsize⟩
      · refine (reads_escape inClass hstop hunicode).mono fun a s' h => ?_
        cases a with
        | code c => simpa using hend h
        | notAnEscape => simpa using hplain h.1 h.2
        | malformed => simpa using hplain h.1 h.2

/-! ### Classes -/

include hstop in
/-- The members of a class take all text before its closing bracket. -/
theorem reads_classMembers (hunicode : src.unicode = false) (fuel : Nat) (acc : List (Nat × Nat)) (hpos : 0 < fuel)
    (hfuel : src.text.size < fuel + s.pos) : Reads (classMembers fuel acc) src s fun _ s' =>
      Quiet stop src true s s' ∧ src.ahead s' 0 = 0x5D := by
  induction fuel generalizing acc s with
  | zero => exact absurd hpos (Nat.lt_irrefl 0)
  | succ fuel ih =>
    -- a member takes text, so there is fuel for the others
    have hrest (acc : List (Nat × Nat)) {s' : ReaderState} (hquiet : Quiet stop src true s s') (hlt : s.pos < s'.pos)
        (hsize : s.pos < src.text.size) : Reads (classMembers fuel acc) src s' fun _ s'' =>
          Quiet stop src true s s'' ∧ src.ahead s'' 0 = 0x5D :=
      (ih acc (by omega) (by omega)).mono fun _ s'' h => ⟨hquiet.trans h.1, h.2⟩
    simp only [classMembers, hunicode, reads_bind, reads_read, reads_peek, reads_atEnd, reads_ite, reads_pure]
    refine ⟨fun hclose => ⟨.refl s, ?_⟩, fun hopen => ?_⟩
    · simp [code] at hclose
      exact hclose.1
    have hfirst : src.ahead s 0 ≠ 0x5C → s.pos < src.text.size → isSpecial true (src.ahead s 0) = false := by
      intro hne hsize
      simp [code] at hopen
      simp [isSpecial, hne]
      omega
    refine (reads_atom true hstop hunicode hfirst).mono fun first s₁ h₁ => ?_
    obtain ⟨hquiet, hlt, hsize⟩ := h₁
    refine ⟨fun hrange => ?_, fun _ => hrest _ hquiet hlt hsize⟩
    simp [code] at hrange
    cases first with
    | set ranges => simpa using hrest _ hquiet hlt hsize
    | code lo =>
      have hdash : Quiet stop src true s₁ (s₁.moved 1) := .one hstop (by
        rw [hrange.1]
        rfl)
      have hsecond : src.ahead (s₁.moved 1) 0 ≠ 0x5C → (s₁.moved 1).pos < src.text.size →
          isSpecial true (src.ahead (s₁.moved 1) 0) = false := by
        intro hne _
        rw [ahead_moved] at hne ⊢
        simp [isSpecial, hne, hrange.2]
      simp only [reads_bind, reads_get, reads_advance]
      refine (reads_atom true hstop hunicode hsecond).mono fun last s₂ h₂ => ?_
      obtain ⟨hquiet₂, hlt₂, -⟩ := h₂
      cases last with
      | set ranges =>
        simpa using hrest _ (hquiet.trans ((hdash.trans hquiet₂).back rfl)) hlt hsize
      | code hi =>
        simp only [reads_bind, reads_ite, reads_throw, implies_true, true_and]
        intro _
        refine hrest _ (hquiet.trans (hdash.trans hquiet₂)) ?_ hsize
        rw [pos_moved] at hlt₂
        omega

include hstop in
theorem reads_charClass (hunicode : src.unicode = false) (hopen : src.ahead s 0 = 0x5B) :
    Reads charClass src s fun _ s' => Quiet stop src false s s' := by
  simp only [charClass, reads_bind, reads_read, reads_peek, reads_ite, reads_pure, reads_advance]
  -- from the opening bracket to the closing one
  have hmembers {s₁ : ReaderState} (h₁ : Quiet stop src true (s.moved 1) s₁) :
      Reads (classMembers (src.text.size + 1) []) src s₁ fun _ s' => Quiet stop src false s (s'.moved 1) := by
    refine (reads_classMembers hstop hunicode _ _ (Nat.succ_pos _) (by omega)).mono fun _ s' h => ?_
    obtain ⟨hquiet, hclose⟩ := h
    have hall := h₁.trans hquiet
    refine ⟨hall.groups, Nat.le_trans (Nat.le_add_right _ 1) (Nat.le_trans hall.pos (Nat.le_add_right _ 1)),
      fun depth => ?_⟩
    have hend := hall.rest depth
    rw [rest_eq_cons src hopen (by decide), groupsBefore_openClass hstop, hend, rest_eq_cons src hclose (by decide),
      groupsBefore_closeClass]
  refine ⟨fun hinverted => ?_, fun _ => hmembers (.refl _)⟩
  refine hmembers (.one hstop ?_)
  rw [show src.ahead (s.moved 1) 0 = 0x5E by simpa [code] using hinverted]
  rfl

/-! ### Group names -/

theorem not_special_of_isNamePart {c : Nat} (h : isNamePart c) : isSpecial inClass c = false := by
  refine not_special_of_code inClass ?_
  simp [isNamePart, rangesContain, wordRanges, code] at h
  omega

theorem lt_size_of_ahead {offset : Nat} (h : src.ahead s offset ≠ 0) : s.pos + offset < src.text.size := by
  cases Nat.lt_or_ge (s.pos + offset) src.text.size with
  | inl hlt => exact hlt
  | inr hge =>
    refine absurd ?_ h
    simp [Source.ahead, Source.rest, List.getD_eq_getElem?_getD]
    rw [Array.getElem?_eq_none hge]
    rfl

include hstop in
theorem reads_nameChars (hunicode : src.unicode = false) (fuel : Nat) (acc : String) :
    Reads (nameChars fuel acc) src s fun _ s' => Quiet stop src inClass s s' := by
  induction fuel generalizing acc s with
  | zero => simp [nameChars, Quiet.refl]
  | succ fuel ih =>
    simp only [nameChars, reads_bind, reads_peek, reads_ite, reads_pure, reads_advance]
    refine ⟨fun hclose => ?_, fun _ => ⟨fun hescape => ?_, fun _ => ⟨fun hpart => ?_, fun _ => .refl s⟩⟩⟩
    · refine .one hstop (not_special_of_code inClass ?_)
      simp [code] at hclose
      omega
    · simp [code] at hescape
      have hpair : Quiet stop src inClass s (s.moved 2) :=
        .pair hstop hescape.1 (lt_size_of_ahead (by omega))
      refine (reads_hexEscape inClass hstop hunicode 4).mono fun a s' h => ?_
      cases a with
      | code c => exact (ih _).mono fun _ s'' h' => (hpair.trans h).trans h'
      | malformed => simpa using hpair.trans h
      | notAnEscape => simpa using hpair.trans h
    · have hone : Quiet stop src inClass s (s.moved 1) := by
        simp only [Bool.and_eq_true] at hpart
        exact .one hstop (not_special_of_isNamePart inClass hpart.1)
      exact (ih _).mono fun _ s' => hone.trans

include hstop in
theorem reads_groupName (hunicode : src.unicode = false) :
    Reads groupName src s fun _ s' => Quiet stop src inClass s s' := by
  simp only [groupName, reads_bind, reads_get, reads_read]
  refine (reads_nameChars inClass hstop hunicode _ _).mono fun a s' h => ?_
  cases a with
  | some name => simpa using h
  | none => simpa using h.back rfl

end Parser

end Steps

end ScriptHost.Regex
