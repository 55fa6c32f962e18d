import ScriptHost.Proofs.Units
import ScriptHost.Regex.Syntax

/-!
# Groups in the text of an expression

Which opening parentheses begin a group can be read off the text of an expression from left to right, if one
keeps in mind the depth of the parentheses, and whether the place is inside a class or behind a backslash.

* `groupsBefore` — the number of groups before a part of the text that stands outside of all parentheses.
* `groupsBefore_append` — texts that are closed one by one have the groups of all of them together.
* `groupsBefore_escapedSource` — **the text that stands for an expression between slashes has its groups**.
-/

namespace ScriptHost.Regex

open Text

/-! ## Groups of a text -/

/-- Whether the text behind `(?<` begins a name. -/
def beginsName (cs : List Nat) : Bool := cs.headD 0 != 0x3D && cs.headD 0 != 0x21

/-- Whether the text behind `(?` makes it a group that is counted. -/
def opensNamed (cs : List Nat) : Bool := cs.headD 0 == 0x3C && beginsName cs.tail

/-- Whether the text behind an opening parenthesis makes it a group that is counted. -/
def captures (cs : List Nat) : Bool := cs.headD 0 != 0x3F || opensNamed cs.tail

/-- Whether a code point has a meaning of its own, inside or outside a class. -/
def isSpecial (inClass : Bool) (c : Nat) : Bool :=
  c == 0x5C || if inClass then c == 0x5D else c == 0x5B || c == 0x28 || c == 0x29 || c == 0x7C

/-- The number of groups that begin in a text before a part `stop` that ends it, from a place on that is
inside a number of parentheses, and perhaps inside a class or behind a backslash.  No number if the part
is not outside of them all. -/
def groupsBefore (stop : List Nat) : Nat → Bool → Bool → List Nat → Option Nat
  | depth, inClass, escaped, [] =>
    if depth = 0 ∧ inClass = false ∧ escaped = false ∧ stop = [] then some 0 else none
  | depth, inClass, true, _ :: cs => groupsBefore stop depth inClass false cs
  | depth, true, false, c :: cs =>
    if c = 0x5C then groupsBefore stop depth true true cs else groupsBefore stop depth (c != 0x5D) false cs
  | depth, false, false, c :: cs =>
    if depth = 0 ∧ stop = c :: cs then some 0
    else if c = 0x5C then groupsBefore stop depth false true cs
    else if c = 0x5B then groupsBefore stop depth true false cs
    else if c = 0x28 then (groupsBefore stop (depth + 1) false false cs).map (· + (captures cs).toNat)
    else if c = 0x29 then
      if depth = 0 then none else groupsBefore stop (depth - 1) false false cs
    else groupsBefore stop depth false false cs

section Stop

variable {stop : List Nat} (hstop : ∀ c ∈ stop.head?, c = 0x7C)
include hstop

attribute [local simp] groupsBefore

theorem groupsBefore_pair (depth : Nat) (inClass : Bool) (c : Nat) (cs : List Nat) :
    groupsBefore stop depth inClass false (0x5C :: c :: cs) = groupsBefore stop depth inClass false cs := by
  have hne : stop ≠ 0x5C :: c :: cs := by
    rintro rfl
    simp at hstop
  cases inClass <;> simp [hne]

theorem groupsBefore_inert {inClass : Bool} {c : Nat} (hc : isSpecial inClass c = false) (depth : Nat)
    (cs : List Nat) : groupsBefore stop depth inClass false (c :: cs) = groupsBefore stop depth inClass false cs := by
  cases inClass with
  | true =>
    simp only [isSpecial, if_true, Bool.or_eq_false_iff, beq_eq_false_iff_ne] at hc
    have hopen : (c != 0x5D) = true := by simpa using hc.2
    simp [hc.1, hopen]
  | false =>
    simp only [isSpecial, Bool.false_eq_true, if_false, Bool.or_eq_false_iff, beq_eq_false_iff_ne] at hc
    have hne : stop ≠ c :: cs := by
      rintro rfl
      simp at hstop
      omega
    simp [hc, hne]

omit hstop in
theorem groupsBefore_bar {depth : Nat} (hdepth : stop ≠ [] → 0 < depth) (cs : List Nat) :
    groupsBefore stop depth false false (0x7C :: cs) = groupsBefore stop depth false false cs := by
  have hne : ¬(depth = 0 ∧ stop = 0x7C :: cs) := by
    rintro ⟨rfl, rfl⟩
    exact absurd (hdepth (List.cons_ne_nil _ _)) (Nat.lt_irrefl 0)
  simp [hne]

theorem groupsBefore_openClass (depth : Nat) (cs : List Nat) :
    groupsBefore stop depth false false (0x5B :: cs) = groupsBefore stop depth true false cs := by
  have hne : stop ≠ 0x5B :: cs := by
    rintro rfl
    simp at hstop
  simp [hne]

omit hstop in
theorem groupsBefore_closeClass (depth : Nat) (cs : List Nat) :
    groupsBefore stop depth true false (0x5D :: cs) = groupsBefore stop depth false false cs := by
  simp

theorem groupsBefore_open (depth : Nat) (cs : List Nat) : groupsBefore stop depth false false (0x28 :: cs)
    = (groupsBefore stop (depth + 1) false false cs).map (· + (captures cs).toNat) := by
  have hne : stop ≠ 0x28 :: cs := by
    rintro rfl
    simp at hstop
  simp [hne]

omit hstop in
theorem groupsBefore_close (depth : Nat) (cs : List Nat) :
    groupsBefore stop (depth + 1) false false (0x29 :: cs) = groupsBefore stop depth false false cs := by
  simp

end Stop

/-! ## Texts of several expressions -/

theorem captures_append {depth : Nat} {cs : List Nat} (ds : List Nat)
    (h : groupsBefore [] (depth + 1) false false cs ≠ none) : captures (cs ++ ds) = captures cs := by
  match cs with
  | [] => simp [groupsBefore] at h
  | c :: cs =>
    by_cases hmark : c = 0x3F
    · subst hmark
      match cs with
      | [] => simp [groupsBefore] at h
      | c :: cs =>
        by_cases hless : c = 0x3C
        · subst hless
          match cs with
          | [] => simp [groupsBefore] at h
          | c :: cs => simp [captures, opensNamed, beginsName]
        · have hnot : (c == 0x3C) = false := by simpa using hless
          simp [captures, opensNamed, hnot]
    · have hnot : (c != 0x3F) = true := by simpa using hmark
      simp [captures, hnot]

/-- Groups of a text whose parentheses and classes are all closed, and of another one behind it. -/
theorem groupsBefore_append {stop cs ds : List Nat} (hlength : stop.length ≤ ds.length) {depth n : Nat}
    {inClass escaped : Bool} (h : groupsBefore [] depth inClass escaped cs = some n) :
    groupsBefore stop depth inClass escaped (cs ++ ds) = (groupsBefore stop 0 false false ds).map (n + ·) := by
  induction cs generalizing depth inClass escaped n with
  | nil =>
    simp [groupsBefore] at h
    obtain ⟨⟨rfl, rfl, rfl⟩, rfl⟩ := h
    simp
  | cons c cs ih =>
    have hstop : stop ≠ c :: (cs ++ ds) := by
      rintro rfl
      rw [List.length_cons, List.length_append] at hlength
      omega
    cases escaped with
    | true => exact ih (by simpa [groupsBefore] using h)
    | false =>
      cases inClass with
      | true =>
        simp only [groupsBefore, List.cons_append] at h ⊢
        split at h
        · rw [if_pos ‹_›]
          exact ih h
        · rw [if_neg ‹_›]
          exact ih h
      | false =>
        have hnil : ¬(depth = 0 ∧ [] = c :: cs) := by simp
        have hnot : ¬(depth = 0 ∧ stop = c :: (cs ++ ds)) := fun h => hstop h.2
        simp only [groupsBefore, List.cons_append, if_neg hnil, if_neg hnot] at h ⊢
        by_cases hslash : c = 0x5C
        · rw [if_pos hslash] at h ⊢
          exact ih h
        rw [if_neg hslash] at h ⊢
        by_cases hclass : c = 0x5B
        · rw [if_pos hclass] at h ⊢
          exact ih h
        rw [if_neg hclass] at h ⊢
        by_cases hopen : c = 0x28
        · rw [if_pos hopen] at h ⊢
          obtain ⟨m, hm, rfl⟩ := Option.map_eq_some_iff.mp h
          have hne : groupsBefore [] (depth + 1) false false cs ≠ none := by simp [hm]
          rw [ih hm, captures_append ds hne, Option.map_map]
          congr 1
          funext k
          simp only [Function.comp]
          omega
        rw [if_neg hopen] at h ⊢
        by_cases hclose : c = 0x29
        · rw [if_pos hclose] at h ⊢
          split at h
          · cases h
          · rw [if_neg ‹_›]
            exact ih h
        rw [if_neg hclose] at h ⊢
        exact ih h

theorem groupsBefore_alternative {stop cs ds : List Nat} (hlength : stop.length ≤ ds.length) {n : Nat}
    (h : groupsBefore [] 0 false false cs = some n) :
    groupsBefore stop 0 false false (cs ++ 0x7C :: ds) = (groupsBefore stop 0 false false ds).map (n + ·) := by
  have hne : stop ≠ 0x7C :: ds := by
    rintro rfl
    rw [List.length_cons] at hlength
    omega
  rw [groupsBefore_append (by simp; omega) h]
  simp [groupsBefore, hne]

/-! ## Texts that can stand between slashes -/

/-- Texts that spell the same groups, in whatever place they stand. -/
structure Respells (cs ds : List Nat) : Prop where
  groups : ∀ depth inClass, groupsBefore [] depth inClass false cs = groupsBefore [] depth inClass false ds
  name : beginsName cs = beginsName ds
  named : opensNamed cs = opensNamed ds
  counted : captures cs = captures ds

theorem Respells.refl (cs : List Nat) : Respells cs cs := ⟨fun _ _ => rfl, rfl, rfl, rfl⟩

theorem Respells.cons {cs ds : List Nat} (h : Respells cs ds) {c : Nat} (hc : c ≠ 0x5C) :
    Respells (c :: cs) (c :: ds) := by
  refine ⟨fun depth inClass => ?_, rfl, ?_, ?_⟩
  · cases inClass with
    | true => simp [groupsBefore, hc, h.groups]
    | false => simp [groupsBefore, hc, h.groups, h.counted]
  · simp [opensNamed, h.name]
  · simp [captures, h.named]

theorem Respells.pair {cs ds : List Nat} (h : Respells cs ds) (c : Nat) :
    Respells (0x5C :: c :: cs) (0x5C :: c :: ds) := by
  refine ⟨fun depth inClass => ?_, rfl, ?_, ?_⟩
  · cases inClass <;> simp [groupsBefore, h.groups]
  · simp [opensNamed]
  · simp [captures]

/-- A character that is no part of what opens a group may be escaped. -/
theorem Respells.escaped {cs ds : List Nat} (h : Respells cs ds) {c : Nat} (d : Nat)
    (hc : ∀ inClass, isSpecial inClass c = false) (hopens : c ≠ 0x3F ∧ c ≠ 0x3C ∧ c ≠ 0x3D ∧ c ≠ 0x21) :
    Respells (0x5C :: d :: cs) (c :: ds) := by
  have hstop : ∀ c ∈ ([] : List Nat).head?, c = 0x7C := by simp
  refine ⟨fun depth inClass => ?_, ?_, ?_, ?_⟩
  · rw [groupsBefore_pair hstop, groupsBefore_inert hstop (hc inClass), h.groups]
  · simp [beginsName, hopens]
  · have hless : (c == 0x3C) = false := by simpa using hopens.2.1
    simp [opensNamed, hless]
  · have hmark : (c != 0x3F) = true := by simpa using hopens.1
    simp [captures, hmark]

/-- The codes of units. -/
def codesOf (us : List UInt16) : List Nat := us.map UInt16.toNat

theorem toList_drop (p : Units) {i : Nat} (h : i < p.size) : p.toList.drop i = p.at0 i :: p.toList.drop (i + 1) := by
  rw [List.drop_eq_getElem_cons (by simpa using h), Units.at0, dif_pos h]
  rfl

/-- The escaped form of a text. -/
theorem respells_escapedFrom (p : Units) {fuel i : Nat} (hfuel : p.size ≤ fuel + i) (inClass : Bool)
    (out : Units) : ∃ us, (escapedFrom p fuel i inClass out).toList = out.toList ++ us
      ∧ Respells (codesOf us) (codesOf (p.toList.drop i)) := by
  have hend {i : Nat} (h : p.size ≤ i) (out : Units) : ∃ us, out.toList = out.toList ++ us
      ∧ Respells (codesOf us) (codesOf (p.toList.drop i)) :=
    ⟨[], (List.append_nil _).symm, by rw [List.drop_eq_nil_of_le (by simpa using h)]; exact .refl _⟩
  induction fuel generalizing i inClass out with
  | zero => exact hend (by omega) out
  | succ fuel ih =>
    unfold escapedFrom
    split
    · exact hend ‹_› out
    rename_i hi
    have hi : i < p.size := by omega
    rw [toList_drop p hi]
    -- one unit, as it stands
    have hcopy (inClass : Bool) (hc : p.at0 i ≠ 0x5C) : ∃ us,
        (escapedFrom p fuel (i + 1) inClass (out.push (p.at0 i))).toList = out.toList ++ us
          ∧ Respells (codesOf us) (codesOf (p.at0 i :: p.toList.drop (i + 1))) := by
      obtain ⟨us, hus, h⟩ := ih (i := i + 1) (by omega) inClass (out.push (p.at0 i))
      refine ⟨p.at0 i :: us, by simp [hus], h.cons ?_⟩
      intro hcode
      exact hc (UInt16.toNat_inj.mp hcode)
    -- one unit, escaped
    have hescape {c d : UInt16} (hc : p.at0 i = c) (hspecial : ∀ inClass, isSpecial inClass c.toNat = false)
        (hopens : c.toNat ≠ 0x3F ∧ c.toNat ≠ 0x3C ∧ c.toNat ≠ 0x3D ∧ c.toNat ≠ 0x21) : ∃ us,
        (escapedFrom p fuel (i + 1) inClass ((out.push 0x5C).push d)).toList = out.toList ++ us
          ∧ Respells (codesOf us) (codesOf (p.at0 i :: p.toList.drop (i + 1))) := by
      obtain ⟨us, hus, h⟩ := ih (i := i + 1) (by omega) inClass ((out.push 0x5C).push d)
      refine ⟨0x5C :: d :: us, by simp [hus], ?_⟩
      rw [hc]
      exact h.escaped d.toNat hspecial hopens
    dsimp only
    split
    · rename_i hslash
      have hslash : p.at0 i = 0x5C := beq_iff_eq.mp hslash
      split
      · rename_i hnext
        obtain ⟨us, hus, h⟩ := ih (i := i + 2) (by omega) inClass ((out.push (p.at0 i)).push (p.at0 (i + 1)))
        refine ⟨p.at0 i :: p.at0 (i + 1) :: us, by simp [hus], ?_⟩
        rw [toList_drop p hnext, hslash]
        exact h.pair _
      · rename_i hnext
        refine ⟨[p.at0 i], by simp, ?_⟩
        rw [List.drop_eq_nil_of_le (by simpa using hnext)]
        exact .refl _
    rename_i hslash
    have hslash : p.at0 i ≠ 0x5C := by simpa using hslash
    split
    · exact hcopy false hslash
    split
    · split
      · rename_i hnext
        have hnext : i + 1 < p.size ∧ p.at0 (i + 1) = 0x5D := by simpa using hnext
        obtain ⟨us, hus, h⟩ := ih (i := i + 2) (by omega) true ((out.push (p.at0 i)).push 0x5D)
        refine ⟨p.at0 i :: 0x5D :: us, by simp [hus], ?_⟩
        rw [toList_drop p hnext.1, hnext.2]
        exact (h.cons (by decide)).cons fun hcode => hslash (UInt16.toNat_inj.mp hcode)
      · exact hcopy true hslash
    split
    · rename_i hfeed
      exact hescape (beq_iff_eq.mp hfeed) (by decide) (by decide)
    split
    · rename_i hreturn
      exact hescape (beq_iff_eq.mp hreturn) (by decide) (by decide)
    split
    · rename_i hsolidus
      have hsolidus : p.at0 i = 0x2F := by
        rw [Bool.and_eq_true, beq_iff_eq] at hsolidus
        exact hsolidus.1
      exact hescape hsolidus (by decide) (by decide)
    · exact hcopy inClass hslash

/-- The text that stands for an expression between slashes has its groups. -/
theorem groupsBefore_escapedSource (p : Units) :
    groupsBefore [] 0 false false (codesOf (escapedSource p).toList) = groupsBefore [] 0 false false (codesOf p.toList) := by
  unfold escapedSource
  split
  · rename_i hempty
    rw [Array.isEmpty_iff.mp hempty, Units.ofString_toList]
    decide
  · obtain ⟨us, hus, h⟩ := respells_escapedFrom p (Nat.le_add_right p.size 0) false #[]
    rw [hus]
    exact h.groups 0 false

end ScriptHost.Regex
