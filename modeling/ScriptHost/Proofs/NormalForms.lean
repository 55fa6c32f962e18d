import Mathlib
import ScriptHost.Proofs.Values

/-!
# Normal forms of values

A language that has one kind of table cannot tell everything apart that values can.  What it tells apart is the normal
form of a value: without `null`, without entries that have no value, and with functions that are no more than that.

* `Value.norm` — the normal form.
* `Value.Agrees` — equality, but for not-a-number, which agrees with itself.
* `Value.Agrees.same` — what agrees is equal, if there is no not-a-number in it.
* `Value.Gapless` — every array keeps its elements in normal form, so that none leaves a gap.
* `Value.Agrees.settled` — **a normal form is its own normal form**, if there is no function in it.
-/

namespace ScriptHost.Value

variable {u v : Value} {items vs : List Value} {entries : List (String × Value)}

/-! ## The normal form -/

mutual

/-- A value as it is told apart by tables. -/
def norm : Value → Value
  | .undefined | .null | .foreign _ => .undefined
  | .bool b => .bool b
  | .number x => .number x
  | .text s => .text s
  | .array items => if items.isEmpty then .object [] else .array (normAll items)
  | .object entries => .object (normEntries entries)
  | .function _ => .foreign "function"

def normAll : List Value → List Value
  | [] => []
  | v :: rest => norm v :: normAll rest

/-- An entry without a value is no entry. -/
def normEntries : List (String × Value) → List (String × Value)
  | [] => []
  | (k, v) :: rest => if (norm v).isUndefined then normEntries rest else (k, norm v) :: normEntries rest

end

theorem normAll_eq (items : List Value) : normAll items = items.map norm := by
  induction items with
  | nil => rfl
  | cons v rest ih => rw [normAll, ih, List.map_cons]

/-- The entries that have a value in normal form. -/
def lasting (entries : List (String × Value)) : List (String × Value) :=
  entries.filter fun e => !(norm e.2).isUndefined

theorem normEntries_eq (entries : List (String × Value)) :
    normEntries entries = (lasting entries).map fun e => (e.1, norm e.2) := by
  induction entries with
  | nil => rfl
  | cons e rest ih =>
    rw [normEntries, lasting, List.filter_cons, ih]
    cases (norm e.2).isUndefined <;> rfl

theorem mem_lasting {e : String × Value} : e ∈ lasting entries ↔ e ∈ entries ∧ (norm e.2).isUndefined = false := by
  rw [lasting, List.mem_filter, Bool.not_eq_true']

theorem Increasing.lasting (h : Increasing entries) : Increasing (lasting entries) := List.Pairwise.filter _ h

/-! ## Agreement -/

/-- Equality of values that lets not-a-number agree with itself. -/
inductive Agrees : Value → Value → Prop
  | undefined : Agrees .undefined .undefined
  | null : Agrees .null .null
  | bool (b : Bool) : Agrees (.bool b) (.bool b)
  | number {x y : Float} (h : (x == y) = true ∨ x.isNaN = true ∧ y.isNaN = true) : Agrees (.number x) (.number y)
  | text (s : String) : Agrees (.text s) (.text s)
  | array {xs ys : List Value} (h : List.Forall₂ Agrees xs ys) : Agrees (.array xs) (.array ys)
  | object {es fs : List (String × Value)} (hkeys : es.map Prod.fst = fs.map Prod.fst)
      (hvalues : List.Forall₂ Agrees (es.map Prod.snd) (fs.map Prod.snd)) : Agrees (.object es) (.object fs)
  | function (f : HostFunction) : Agrees (.function f) (.function f)
  | foreign (name : String) : Agrees (.foreign name) (.foreign name)

theorem Agrees.isUndefined (h : u.Agrees v) : u.isUndefined = v.isUndefined := by
  cases h <;> rfl

theorem isUndefined_iff : u.isUndefined = true ↔ u = .undefined := by
  cases u <;> simp [isUndefined]

/-! ## Parts -/

/-- A value is part of another one: it is that value, or part of an element or an entry. -/
inductive Part (c : Value) : Value → Prop
  | refl : Part c c
  | item {items : List Value} {v : Value} (hv : v ∈ items) (h : Part c v) : Part c (.array items)
  | entry {entries : List (String × Value)} {e : String × Value} (he : e ∈ entries) (h : Part c e.2) :
      Part c (.object entries)

/-- What is said of all parts of a value. -/
def Throughout (P : Value → Prop) (v : Value) : Prop := ∀ c, Part c v → P c

/-- What every value is by its making: no memory has room for an array of 2^62 elements, and the keys of an object are
in order. -/
def WellFormed (v : Value) : Prop := v.Throughout fun c => match c with
  | .array items => items.length < 2 ^ 62
  | .object entries => Increasing entries
  | _ => True

/-- No array has an element that is nothing in normal form. -/
def Gapless (v : Value) : Prop := v.Throughout fun c => match c with
  | .array items => ∀ x ∈ items, x.norm ≠ .undefined
  | _ => True

/-- No part is a function of the host. -/
def FunctionFree (v : Value) : Prop := v.Throughout fun c => ∀ f, c ≠ .function f

/-- No part is not-a-number. -/
def NanFree (v : Value) : Prop := v.Throughout fun c => ∀ x, c = .number x → x.isNaN = false

section Throughout

variable {P : Value → Prop}

theorem throughout_array : (Value.array items).Throughout P ↔ P (.array items) ∧ ∀ v ∈ items, v.Throughout P := by
  constructor
  · exact fun h => ⟨h _ .refl, fun v hv c hc => h c (.item hv hc)⟩
  · rintro ⟨hself, hitems⟩ c hc
    cases hc with
    | refl => exact hself
    | item hv h => exact hitems _ hv c h

theorem throughout_object :
    (Value.object entries).Throughout P ↔ P (.object entries) ∧ ∀ e ∈ entries, e.2.Throughout P := by
  constructor
  · exact fun h => ⟨h _ .refl, fun e he c hc => h c (.entry he hc)⟩
  · rintro ⟨hself, hentries⟩ c hc
    cases hc with
    | refl => exact hself
    | entry he h => exact hentries _ he c h

/-- A value that has no parts but itself. -/
def isLeaf : Value → Bool
  | .array _ | .object _ => false
  | _ => true

theorem throughout_leaf (h : v.isLeaf = true) : v.Throughout P ↔ P v := by
  refine ⟨fun hv => hv v .refl, fun hv c hc => ?_⟩
  cases hc with
  | refl => exact hv
  | item => cases h
  | entry => cases h

theorem wellFormed_leaf (h : v.isLeaf = true) : v.WellFormed := by
  refine (throughout_leaf h).mpr ?_
  cases v <;> trivial

theorem gapless_leaf (h : v.isLeaf = true) : v.Gapless := by
  refine (throughout_leaf h).mpr ?_
  cases v <;> trivial

theorem wellFormed_array :
    (Value.array items).WellFormed ↔ items.length < 2 ^ 62 ∧ ∀ v ∈ items, v.WellFormed := throughout_array

theorem wellFormed_object :
    (Value.object entries).WellFormed ↔ Increasing entries ∧ ∀ e ∈ entries, e.2.WellFormed := throughout_object

theorem gapless_array :
    (Value.array items).Gapless ↔ (∀ v ∈ items, v.norm ≠ .undefined) ∧ ∀ v ∈ items, v.Gapless := throughout_array

theorem gapless_object : (Value.object entries).Gapless ↔ ∀ e ∈ entries, e.2.Gapless := by
  rw [Gapless, throughout_object]
  exact and_iff_right trivial

end Throughout

/-! ## Agreement and equality -/

theorem exists_of_forall₂ {α β : Type} {R : α → β → Prop} {xs : List α} {ys : List β} (h : List.Forall₂ R xs ys)
    {x : α} (hx : x ∈ xs) : ∃ y ∈ ys, R x y := by
  induction h with
  | nil => cases hx
  | cons hfirst _ ih =>
    rcases List.mem_cons.mp hx with rfl | hx
    · exact ⟨_, List.mem_cons_self, hfirst⟩
    · obtain ⟨y, hy, hR⟩ := ih hx
      exact ⟨y, List.mem_cons_of_mem _ hy, hR⟩

theorem forall₂_of_mem {α β : Type} {R S : α → β → Prop} {xs : List α} {ys : List β} (h : List.Forall₂ R xs ys)
    (hS : ∀ x ∈ xs, ∀ y, R x y → S x y) : List.Forall₂ S xs ys := by
  induction h with
  | nil => exact .nil
  | cons hfirst _ ih =>
    obtain ⟨hx, hrest⟩ := List.forall_mem_cons.mp hS
    exact .cons (hx _ hfirst) (ih hrest)

theorem sameAll_iff {xs ys : List Value} :
    sameAll xs ys = true ↔ List.Forall₂ (fun x y => x.same y = true) xs ys := by
  induction xs generalizing ys with
  | nil => cases ys <;> simp [sameAll]
  | cons x xs ih => cases ys <;> simp [sameAll, ih]

theorem sameEntries_iff {es fs : List (String × Value)} : sameEntries es fs = true ↔
    es.map Prod.fst = fs.map Prod.fst ∧ sameAll (es.map Prod.snd) (fs.map Prod.snd) = true := by
  induction es generalizing fs with
  | nil => cases fs <;> simp [sameEntries, sameAll]
  | cons e es ih => cases fs <;> simp [sameEntries, sameAll, ih, and_left_comm, and_assoc]

/-- What agrees is equal, if there is no not-a-number in it. -/
theorem Agrees.same (h : u.Agrees v) (hnan : u.NanFree) : u.same v = true := by
  induction u using tree_induction generalizing v with
  | number x =>
    cases h with
    | number h => exact h.resolve_right fun hboth => Bool.false_ne_true ((hnan _ .refl x rfl).symm.trans hboth.1)
  | array items ih =>
    obtain ⟨-, hnan⟩ := throughout_array.mp hnan
    cases h with
    | array h => exact sameAll_iff.mpr (forall₂_of_mem h fun x hx y hxy => ih x hx hxy (hnan x hx))
  | object entries ih =>
    obtain ⟨-, hnan⟩ := throughout_object.mp hnan
    cases h with
    | object hkeys hvalues =>
      refine sameEntries_iff.mpr ⟨hkeys, sameAll_iff.mpr (forall₂_of_mem hvalues fun x hx y hxy => ?_)⟩
      obtain ⟨e, he, rfl⟩ := List.mem_map.mp hx
      exact ih e he hxy (hnan e he)
  | _ =>
    cases h
    simp [Value.same]

/-! ## Normal forms of normal forms -/

/-- What agrees with the normal form of an array: an empty object, or an array of the same length. -/
theorem Agrees.of_array (h : u.Agrees (norm (.array items))) : items = [] ∧ u = .object [] ∨
    ∃ us, us ≠ [] ∧ us.length = items.length ∧ u = .array us ∧ ∀ x ∈ us, ∃ v ∈ items, x.Agrees v.norm := by
  rw [norm, normAll_eq] at h
  by_cases hempty : items = []
  · subst hempty
    cases h with
    | @object es _ hkeys _ =>
      obtain rfl := List.map_eq_nil_iff.mp hkeys
      exact .inl ⟨rfl, rfl⟩
  · rw [if_neg (by simpa using hempty)] at h
    cases h with
    | @array us _ hitems =>
      have hlength : us.length = items.length := hitems.length_eq.trans (List.length_map _)
      refine .inr ⟨us, fun hnil => hempty ?_, hlength, rfl, fun x hx => ?_⟩
      · rw [hnil] at hlength
        exact List.eq_nil_of_length_eq_zero hlength.symm
      · obtain ⟨_, hmem, hagrees⟩ := exists_of_forall₂ hitems hx
        obtain ⟨v, hv, rfl⟩ := List.mem_map.mp hmem
        exact ⟨v, hv, hagrees⟩

/-- What agrees with the normal form of an object: an object with the keys of the entries that last. -/
theorem Agrees.of_object (h : u.Agrees (norm (.object entries))) : ∃ es, u = .object es ∧
    es.map Prod.fst = (lasting entries).map Prod.fst ∧ ∀ e ∈ es, ∃ f ∈ lasting entries, e.2.Agrees f.2.norm := by
  rw [norm, normEntries_eq] at h
  cases h with
  | @object es _ hkeys hvalues =>
    rw [List.map_map] at hkeys hvalues
    refine ⟨es, rfl, hkeys, fun e he => ?_⟩
    obtain ⟨_, hmem, hagrees⟩ := exists_of_forall₂ hvalues (List.mem_map_of_mem he)
    obtain ⟨f, hf, rfl⟩ := List.mem_map.mp hmem
    exact ⟨f, hf, hagrees⟩

/-- A normal form is not deeper. -/
theorem Agrees.depth_le (h : u.Agrees v.norm) : u.depth ≤ v.depth := by
  induction v using tree_induction generalizing u with
  | undefined | null | bool b | number x | text s | function f | foreign name =>
    cases h
    exact Nat.le_refl _
  | array items ih =>
    rcases h.of_array with ⟨-, rfl⟩ | ⟨us, -, -, rfl, hall⟩
    · exact Nat.zero_le _
    · refine levels_le_iff.mpr fun x hx => ?_
      obtain ⟨v, hv, hagrees⟩ := hall x hx
      exact Nat.lt_of_le_of_lt (ih v hv hagrees) (levels_le_iff.mp (Nat.le_refl _) v hv)
  | object entries ih =>
    obtain ⟨es, rfl, -, hall⟩ := h.of_object
    rw [depth, depth, entryLevels_eq, entryLevels_eq]
    refine levels_le_iff.mpr fun x hx => ?_
    obtain ⟨e, he, rfl⟩ := List.mem_map.mp hx
    obtain ⟨f, hf, hagrees⟩ := hall e he
    have hmem := (mem_lasting.mp hf).1
    exact Nat.lt_of_le_of_lt (ih f hmem hagrees)
      (levels_le_iff.mp (Nat.le_refl _) f.2 (List.mem_map_of_mem hmem))

/-- A value of the host that is its own normal form, in arrays without gaps. -/
structure Settled (u : Value) : Prop where
  wellFormed : u.WellFormed
  gapless : u.Gapless
  norm_eq : u.norm = u

namespace Settled

theorem leaf (hleaf : u.isLeaf = true) (hnorm : u.norm = u) : u.Settled :=
  ⟨wellFormed_leaf hleaf, gapless_leaf hleaf, hnorm⟩

theorem array (hne : vs ≠ []) (hlength : vs.length < 2 ^ 62) (h : ∀ u ∈ vs, u.Settled ∧ u ≠ .undefined) :
    (Value.array vs).Settled := by
  have hnorm : vs.map norm = vs := by
    have hself : ∀ u ∈ vs, u.norm = u := fun u hu => (h u hu).1.norm_eq
    rw [List.map_congr_left hself, List.map_id']
  refine ⟨wellFormed_array.mpr ⟨hlength, fun u hu => (h u hu).1.wellFormed⟩,
    gapless_array.mpr ⟨fun u hu => ?_, fun u hu => (h u hu).1.gapless⟩, ?_⟩
  · rw [(h u hu).1.norm_eq]
    exact (h u hu).2
  · rw [norm, if_neg (by simpa using hne), normAll_eq, hnorm]

theorem object (hincreasing : Increasing entries) (h : ∀ e ∈ entries, e.2.Settled ∧ e.2 ≠ .undefined) :
    (Value.object entries).Settled := by
  have hlasting : lasting entries = entries := by
    refine List.filter_eq_self.mpr fun e he => ?_
    rw [(h e he).1.norm_eq, Bool.not_eq_true', ← Bool.not_eq_true, isUndefined_iff]
    exact (h e he).2
  have hnorm : (entries.map fun e => (e.1, norm e.2)) = entries := by
    have hself : ∀ e ∈ entries, (e.1, e.2.norm) = e := fun e he => Prod.ext rfl (h e he).1.norm_eq
    rw [List.map_congr_left hself, List.map_id']
  refine ⟨wellFormed_object.mpr ⟨hincreasing, fun e he => (h e he).1.wellFormed⟩,
    gapless_object.mpr fun e he => (h e he).1.gapless, ?_⟩
  rw [norm, normEntries_eq, hlasting, hnorm]

end Settled

/-- **What agrees with a normal form is in normal form**, if there is no function in the value. -/
theorem Agrees.settled (h : u.Agrees v.norm) (hformed : v.WellFormed) (hgapless : v.Gapless)
    (hfree : v.FunctionFree) : u.Settled := by
  induction v using tree_induction generalizing u with
  | undefined | null | bool b | number x | text s | foreign name =>
    cases h
    exact .leaf rfl rfl
  | function f => exact absurd rfl (hfree _ .refl f)
  | array items ih =>
    obtain ⟨hlength, hformed⟩ := wellFormed_array.mp hformed
    obtain ⟨hdefined, hgapless⟩ := gapless_array.mp hgapless
    obtain ⟨-, hfree⟩ := throughout_array.mp hfree
    rcases h.of_array with ⟨-, rfl⟩ | ⟨us, hne, hsame, rfl, hall⟩
    · exact .object List.Pairwise.nil fun e he => absurd he List.not_mem_nil
    · refine .array hne (hsame ▸ hlength) fun x hx => ?_
      obtain ⟨v, hv, hagrees⟩ := hall x hx
      refine ⟨ih v hv hagrees (hformed v hv) (hgapless v hv) (hfree v hv), fun heq => hdefined v hv ?_⟩
      rwa [← isUndefined_iff, ← hagrees.isUndefined, isUndefined_iff]
  | object entries ih =>
    obtain ⟨hincreasing, hformed⟩ := wellFormed_object.mp hformed
    have hgapless := gapless_object.mp hgapless
    obtain ⟨-, hfree⟩ := throughout_object.mp hfree
    obtain ⟨es, rfl, hkeys, hall⟩ := h.of_object
    refine .object ?_ fun e he => ?_
    · exact List.pairwise_map.mp (hkeys ▸ List.pairwise_map.mpr hincreasing.lasting)
    · obtain ⟨f, hf, hagrees⟩ := hall e he
      obtain ⟨hmem, hdefined⟩ := mem_lasting.mp hf
      refine ⟨ih f hmem hagrees (hformed f hmem) (hgapless f hmem) (hfree f hmem), fun heq => ?_⟩
      rw [← hagrees.isUndefined, heq] at hdefined
      cases hdefined

end ScriptHost.Value
