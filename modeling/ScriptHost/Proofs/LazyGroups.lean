import ScriptHost.Proofs.Matching

/-!
# Fixed text and lazy groups

A node of single characters takes the text that it spells and has one way to match.  A lazy group of arbitrary
text has many, the shortest first; so what follows it decides where it ends.

* `StandsAt` — some units at a place of a text.
* `Spells` — a node that takes exactly some units.
* `run_lazyGroup_of_first`, `run_lazyGroup_eq_none` — a lazy group ends at the first place where the rest succeeds.
* `search_of_first` — a search ends at the first place where there is a match.
-/

namespace ScriptHost.Regex

open Text

/-- Some units at a place of a text. -/
def StandsAt (text : Units) (part : List UInt16) (i : Nat) : Prop := part <+: text.toList.drop i

variable {text : Units} {part other : List UInt16} {i j pos : Nat}

instance : Decidable (StandsAt text part i) := inferInstanceAs (Decidable (part <+: text.toList.drop i))

namespace StandsAt

/-- Text that stands somewhere lies inside. -/
theorem le_size (h : StandsAt text part i) (hne : part ≠ []) : i + part.length ≤ text.size := by
  have hlength := List.IsPrefix.length_le h
  have hpos := List.length_pos_iff.2 hne
  simp only [List.length_drop, Array.length_toList] at hlength
  omega

end StandsAt

theorem standsAt_append : StandsAt text (part ++ other) i ↔ StandsAt text part i ∧ StandsAt text other (i + part.length) := by
  unfold StandsAt
  rw [← List.drop_drop]
  constructor
  · rintro ⟨rest, hrest⟩
    rw [← hrest, List.append_assoc, List.drop_left]
    exact ⟨List.prefix_append .., List.prefix_append ..⟩
  · rintro ⟨⟨rest, hrest⟩, hother⟩
    rw [← hrest, List.drop_left] at hother
    rw [← hrest, List.prefix_append_right_inj]
    exact hother

theorem standsAt_singleton {u : UInt16} : StandsAt text [u] i ↔ ∃ h : i < text.size, text[i] = u := by
  unfold StandsAt
  by_cases h : i < text.size
  · rw [List.drop_eq_getElem_cons (by simpa using h)]
    simp [h, eq_comm]
  · simp [h, List.drop_eq_nil_of_le (show text.toList.length ≤ i by simpa using Nat.le_of_not_lt h)]

/-! ## Fixed text -/

/-- Subjects in which characters are compared one by one and as they are. -/
structure Subject.Plain (s : Subject) : Prop where
  unicode : s.flags.unicode = false
  ignoreCase : s.flags.ignoreCase = false

variable {s : Subject}

theorem Subject.Plain.read_eq (h : s.Plain) :
    s.read false pos = if h : pos < s.input.size then some (s.input[pos].toNat, pos + 1) else none := by
  unfold Subject.read
  simp only [h.unicode, Bool.false_eq_true, if_false]
  split
  · next hlt => simp [hlt, Units.at0]
  · rfl

/-- A node that takes exactly some units and has no groups. -/
def Spells (s : Subject) (node : Node) (part : List UInt16) : Prop := ∀ pos caps k,
  node.run s false pos caps k = if StandsAt s.input part pos then k (pos + part.length) caps else none

theorem spells_char (h : s.Plain) (u : UInt16) : Spells s (.char u.toNat) [u] := by
  intro pos caps k
  unfold Node.run Subject.single?
  rw [h.read_eq]
  simp only [standsAt_singleton]
  by_cases hpos : pos < s.input.size
  · by_cases hu : s.input[pos] = u
    · simp [hpos, hu]
    · have hcode : s.input[pos].toNat ≠ u.toNat := fun heq => hu (UInt16.toNat_inj.1 heq)
      simp [hpos, hu, Subject.fold, h.ignoreCase, hcode]
  · simp [hpos]

theorem Spells.seq {a b : Node} (ha : Spells s a part) (hb : Spells s b other) :
    Spells s (.seq a b) (part ++ other) := by
  intro pos caps k
  unfold Node.run
  simp only [Bool.false_eq_true, if_false, standsAt_append]
  rw [ha]
  by_cases hpart : StandsAt s.input part pos
  · simp [hpart, hb _ _ _, Nat.add_assoc]
  · simp [hpart]

/-! ## Alternatives -/

section

variable {a b : Node} {back : Bool} {caps : Captures} {k : Continuation} {r : Nat × Captures}

theorem run_alt_of_some (h : a.run s back pos caps k = some r) : (Node.alt a b).run s back pos caps k = some r := by
  rw [Node.run, h]

theorem run_alt_of_none (h : a.run s back pos caps k = none) :
    (Node.alt a b).run s back pos caps k = b.run s back pos caps k := by
  rw [Node.run, h]

end

/-! ## Lazy groups -/

/-- Captures in which a group has these bounds. -/
def Captures.withGroup (caps : Captures) (i start stop : Nat) : Captures :=
  (caps.setIfInBounds (2 * i) (some start)).setIfInBounds (2 * i + 1) (some stop)

variable {caps : Captures} {k : Continuation} {r : Nat × Captures}

@[simp] theorem size_withGroup (start stop : Nat) : (caps.withGroup i start stop).size = caps.size := by
  simp [Captures.withGroup]

theorem bounds?_withGroup_self (h : 2 * i + 1 < caps.size) (start stop : Nat) :
    (caps.withGroup i start stop).bounds? i = some (start, stop) := by
  have hlt : 2 * i < caps.size := by omega
  simp [Captures.bounds?, Captures.withGroup, h, hlt]

theorem bounds?_withGroup_of_ne (h : j ≠ i) (start stop : Nat) :
    (caps.withGroup i start stop).bounds? j = caps.bounds? j := by
  have hfirst : 2 * i + 1 ≠ 2 * j ∧ 2 * i ≠ 2 * j := by omega
  have hsecond : 2 * i + 1 ≠ 2 * j + 1 ∧ 2 * i ≠ 2 * j + 1 := by omega
  simp [Captures.bounds?, Captures.withGroup, Array.getElem?_setIfInBounds_ne, hfirst, hsecond]

theorem untilMatch_of_first {next : Nat → Option Nat} {fuel : Nat} (hij : i ≤ j) (hfuel : j ≤ i + fuel)
    (hnext : ∀ l, i ≤ l → l < j → next l = some (l + 1)) (hnone : ∀ l, i ≤ l → l < j → k l caps = none)
    (hk : k j caps = some r) : untilMatch next caps k fuel i = some r := by
  induction fuel generalizing i with
  | zero =>
    obtain rfl : i = j := by omega
    exact hk
  | succ fuel ih =>
    unfold untilMatch
    rcases Nat.lt_or_ge i j with hlt | hge
    · simp only [hnone i (Nat.le_refl _) hlt, hnext i (Nat.le_refl _) hlt]
      refine ih hlt (by omega) ?_ ?_
      · intro l hl
        exact hnext l (by omega)
      · intro l hl
        exact hnone l (by omega)
    · obtain rfl : i = j := by omega
      simp only [hk]

theorem untilMatch_eq_none {next : Nat → Option Nat} {fuel : Nat}
    (hnext : ∀ l l', i ≤ l → next l = some l' → l ≤ l') (hnone : ∀ l, i ≤ l → k l caps = none) :
    untilMatch next caps k fuel i = none := by
  induction fuel generalizing i with
  | zero => exact hnone i (Nat.le_refl _)
  | succ fuel ih =>
    unfold untilMatch
    simp only [hnone i (Nat.le_refl _)]
    cases hstep : next i with
    | none => rfl
    | some i' =>
      have hle := hnext i i' (Nat.le_refl _) hstep
      refine ih ?_ ?_
      · intro l l' hl
        exact hnext l l' (by omega)
      · intro l hl
        exact hnone l (by omega)

/-- A node that takes any one character. -/
def TakesAny (s : Subject) (node : Node) : Prop := ∃ test, node.test? s = some test ∧ ∀ u : UInt16, test u.toNat = true

theorem single?_of_any (h : s.Plain) {test : Nat → Bool} (htest : ∀ u : UInt16, test u.toNat = true) (pos : Nat) :
    s.single? false test pos = if pos < s.input.size then some (pos + 1) else none := by
  unfold Subject.single?
  rw [h.read_eq]
  by_cases hpos : pos < s.input.size
  · simp [hpos, htest]
  · simp [hpos]

section LazyGroup

variable {body : Node} {first last : Nat}

/-- A lazy group of one character and more. -/
def lazyGroup (i : Nat) (body : Node) (first last : Nat) : Node := .group i (.rep body 1 none false first last)

theorem run_lazyGroup (h : s.Plain) {test : Nat → Bool} (hbody : body.test? s = some test)
    (htest : ∀ u : UInt16, test u.toNat = true) : (lazyGroup i body first last).run s false pos caps k =
      if pos < s.input.size then untilMatch (s.single? false test) caps (fun p c => k p (c.withGroup i pos p))
        (s.input.size + 1) (pos + 1) else none := by
  unfold lazyGroup Node.run Node.run
  simp only [hbody, takeExactly, single?_of_any h htest]
  by_cases hpos : pos < s.input.size
  · simp [hpos, Captures.withGroup]
  · simp [hpos]

/-- A lazy group ends at the first place where the rest succeeds. -/
theorem run_lazyGroup_of_first (h : s.Plain) (hbody : TakesAny s body) (hj : pos + 1 ≤ j) (hsize : j ≤ s.input.size)
    (hnone : ∀ l, pos + 1 ≤ l → l < j → k l (caps.withGroup i pos l) = none)
    (hk : k j (caps.withGroup i pos j) = some r) :
    (lazyGroup i body first last).run s false pos caps k = some r := by
  obtain ⟨test, hbody, htest⟩ := hbody
  rw [run_lazyGroup h hbody htest, if_pos (by omega)]
  refine untilMatch_of_first (k := fun p c => k p (c.withGroup i pos p)) hj (by omega) ?_ hnone hk
  intro l _ hl
  rw [single?_of_any h htest, if_pos (by omega)]

/-- A lazy group has no match if the rest does not succeed anywhere. -/
theorem run_lazyGroup_eq_none (h : s.Plain) (hbody : TakesAny s body)
    (hnone : ∀ l, pos + 1 ≤ l → k l (caps.withGroup i pos l) = none) :
    (lazyGroup i body first last).run s false pos caps k = none := by
  obtain ⟨test, hbody, htest⟩ := hbody
  rw [run_lazyGroup h hbody htest]
  split
  · refine untilMatch_eq_none (k := fun p c => k p (c.withGroup i pos p)) ?_ hnone
    intro l l' _ hstep
    rw [single?_of_any h htest] at hstep
    split at hstep
    · cases hstep
      omega
    · cases hstep
  · rfl

end LazyGroup

/-! ## Searches -/

/-- A search ends at the first place where there is a match. -/
theorem search_of_first {x : Regex} {c : Captures} (hunicode : x.flags.unicode = false) (hsticky : x.flags.sticky = false)
    (hij : i ≤ j) (hsize : j ≤ text.size) (hnone : ∀ l, i ≤ l → l < j → matchAt x text l = none)
    (hmatch : matchAt x text j = some c) : search x text i = some c := by
  have hgo (fuel : Nat) (hfuel : j < i + fuel) : search.go x text fuel i = some c := by
    induction fuel generalizing i with
    | zero => omega
    | succ fuel ih =>
      unfold search.go
      rcases Nat.lt_or_ge i j with hlt | hge
      · simp only [hnone i (Nat.le_refl _) hlt, hsticky, hunicode, Bool.false_eq_true, if_false]
        refine ih hlt ?_ (by omega)
        intro l hl
        exact hnone l (by omega)
      · obtain rfl : i = j := by omega
        simp only [hmatch]
  exact hgo _ (by omega)

end ScriptHost.Regex
