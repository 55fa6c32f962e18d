import Mathlib.Data.List.Perm.Basic
import ScriptHost.Value

/-!
# Trees of values

A value is a tree of arrays and objects.  What is below a node is told from all that is directly there, so facts
about values are proved from those about their elements and entries.

* `Value.tree_induction` — induction over elements and entries.
* `Value.depth` — how deep a value is.
* `Value.ofEntries_perm` — an object is made of its entries in any order.
* `Value.ofEntries_members` — an object is made of entries some of which have the same key.
-/

namespace ScriptHost

/-- What has distinct keys is found under them. -/
theorem lookup_of_mem {α β : Type} [DecidableEq α] {entries : List (α × β)} (h : (entries.map Prod.fst).Nodup)
    {k : α} {v : β} (hmem : (k, v) ∈ entries) : entries.lookup k = some v := by
  induction entries with
  | nil => simp at hmem
  | cons e rest ih =>
    rw [List.map_cons, List.nodup_cons] at h
    rcases List.mem_cons.mp hmem with rfl | hmem
    · rw [List.lookup_cons_self]
    · have hne : k ≠ e.1 := fun heq => h.1 (heq ▸ List.mem_map_of_mem hmem)
      rw [List.lookup_cons, beq_false_of_ne hne]
      exact ih h.2 hmem

namespace Value

/-! ## Trees of values -/

/-- Induction over a value: what holds of all that an array or an object has directly holds of it. -/
@[elab_as_elim]
theorem tree_induction {motive : Value → Prop} (undefined : motive .undefined) (null : motive .null)
    (bool : ∀ b, motive (.bool b)) (number : ∀ x, motive (.number x)) (text : ∀ s, motive (.text s))
    (array : ∀ items : List Value, (∀ v ∈ items, motive v) → motive (.array items))
    (object : ∀ entries : List (String × Value), (∀ e ∈ entries, motive e.2) → motive (.object entries))
    (function : ∀ f, motive (.function f)) (foreign : ∀ name, motive (.foreign name)) (v : Value) : motive v := by
  refine @Value.rec motive (fun items => ∀ v ∈ items, motive v) (fun entries => ∀ e ∈ entries, motive e.2)
    (fun e => motive e.2) undefined null bool number text array object function foreign ?nil ?cons ?none ?entry
    ?pair v
  case nil => exact fun v hv => absurd hv List.not_mem_nil
  case cons => exact fun v rest hv hrest => List.forall_mem_cons.mpr ⟨hv, hrest⟩
  case none => exact fun e he => absurd he List.not_mem_nil
  case entry => exact fun e rest he hrest => List.forall_mem_cons.mpr ⟨he, hrest⟩
  case pair => exact fun _ _ hv => hv

mutual

/-- How many levels a value has below its top. -/
def depth : Value → Nat
  | .array items => levels items
  | .object entries => entryLevels entries
  | _ => 0

/-- How many levels values make below what holds them. -/
def levels : List Value → Nat
  | [] => 0
  | v :: rest => max (v.depth + 1) (levels rest)

/-- How many levels entries make below the object that has them. -/
def entryLevels : List (String × Value) → Nat
  | [] => 0
  | (_, v) :: rest => max (v.depth + 1) (entryLevels rest)

end

theorem levels_le_iff {vs : List Value} {n : Nat} : levels vs ≤ n ↔ ∀ v ∈ vs, v.depth < n := by
  induction vs with
  | nil => simp [levels]
  | cons v rest ih => rw [levels, Nat.max_le, ih, Nat.succ_le_iff, List.forall_mem_cons]

theorem entryLevels_eq (entries : List (String × Value)) : entryLevels entries = levels (entries.map Prod.snd) := by
  induction entries with
  | nil => rfl
  | cons e rest ih => simp [levels, entryLevels, ih]

theorem levels_perm {vs ws : List Value} (h : vs.Perm ws) : levels vs = levels ws := by
  refine Nat.le_antisymm ?_ ?_
  · exact levels_le_iff.mpr fun v hv => levels_le_iff.mp (Nat.le_refl _) v (h.mem_iff.mp hv)
  · exact levels_le_iff.mpr fun v hv => levels_le_iff.mp (Nat.le_refl _) v (h.mem_iff.mpr hv)

/-! ## Entries in order -/

/-- The entries are in increasing order of their keys. -/
def Increasing (entries : List (String × Value)) : Prop := entries.Pairwise fun a b => a.1 < b.1

theorem Increasing.nodup {entries : List (String × Value)} (h : Increasing entries) :
    (entries.map Prod.fst).Nodup := by
  refine List.pairwise_map.mpr (List.Pairwise.imp ?_ h)
  intro a b hlt heq
  rw [heq] at hlt
  exact String.lt_irrefl b.1 hlt

theorem insertEntry_perm {key : String} {v : Value} {entries : List (String × Value)}
    (h : key ∉ entries.map Prod.fst) : (insertEntry key v entries).Perm ((key, v) :: entries) := by
  induction entries with
  | nil => exact .refl _
  | cons a rest ih =>
    obtain ⟨k, w⟩ := a
    rw [List.map_cons, List.mem_cons, not_or] at h
    rw [insertEntry, if_neg h.1]
    split
    · exact .refl _
    · exact ((ih h.2).cons (k, w)).trans (.swap (key, v) (k, w) rest)

theorem mem_of_mem_insertEntry {key : String} {v : Value} {entries : List (String × Value)} {e : String × Value}
    (h : e ∈ insertEntry key v entries) : e = (key, v) ∨ e ∈ entries := by
  induction entries with
  | nil => exact .inl (List.mem_singleton.mp h)
  | cons a rest ih =>
    obtain ⟨k, w⟩ := a
    rw [insertEntry] at h
    split at h
    · exact (List.mem_cons.mp h).imp_right (List.mem_cons_of_mem _)
    split at h
    · exact List.mem_cons.mp h
    · rcases List.mem_cons.mp h with rfl | h
      · exact .inr List.mem_cons_self
      · exact (ih h).imp_right (List.mem_cons_of_mem _)

theorem mem_keys_insertEntry {key name : String} {v : Value} {entries : List (String × Value)} :
    name ∈ (insertEntry key v entries).map Prod.fst ↔ name = key ∨ name ∈ entries.map Prod.fst := by
  induction entries with
  | nil => simp [insertEntry]
  | cons a rest ih =>
    obtain ⟨k, w⟩ := a
    rw [insertEntry]
    split
    · next heq => simp [heq]
    split
    · simp
    · rw [List.map_cons, List.mem_cons, ih, List.map_cons, List.mem_cons, or_left_comm]

theorem Increasing.insertEntry {key : String} {v : Value} {entries : List (String × Value)}
    (h : Increasing entries) : Increasing (insertEntry key v entries) := by
  induction entries with
  | nil => exact List.pairwise_singleton _ _
  | cons a rest ih =>
    obtain ⟨k, w⟩ := a
    obtain ⟨hfirst, hrest⟩ := List.pairwise_cons.mp h
    rw [Value.insertEntry]
    split
    · next heq =>
      subst heq
      exact List.pairwise_cons.mpr ⟨hfirst, hrest⟩
    split
    · next hlt =>
      refine List.pairwise_cons.mpr ⟨fun e he => ?_, h⟩
      rcases List.mem_cons.mp he with rfl | he
      · exact hlt
      · exact String.lt_trans hlt (hfirst e he)
    · next hne hnot =>
      have hlt : k < key := by
        by_contra hge
        exact hne (String.le_antisymm (String.not_lt.mp hge) (String.not_lt.mp hnot))
      refine List.pairwise_cons.mpr ⟨fun e he => ?_, ih hrest⟩
      rcases mem_of_mem_insertEntry he with rfl | he
      · exact hlt
      · exact hfirst e he

/-- Entries with new keys are put in their places one after the other. -/
theorem foldl_insertEntry {es acc : List (String × Value)} (hnodup : ((acc ++ es).map Prod.fst).Nodup)
    (hacc : Increasing acc) :
    Increasing (es.foldl (fun acc e => insertEntry e.1 e.2 acc) acc)
      ∧ (es.foldl (fun acc e => insertEntry e.1 e.2 acc) acc).Perm (acc ++ es) := by
  induction es generalizing acc with
  | nil => exact ⟨hacc, by simp⟩
  | cons e es ih =>
    have hmiddle : (acc ++ e :: es).Perm (e :: acc ++ es) := List.perm_middle
    have hnew : e.1 ∉ acc.map Prod.fst := by
      have hhead := (hmiddle.map Prod.fst).nodup_iff.mp hnodup
      rw [List.cons_append, List.map_cons, List.nodup_cons] at hhead
      exact fun hmem => hhead.1 (by rw [List.map_append]; exact List.mem_append_left _ hmem)
    have hstep : (insertEntry e.1 e.2 acc ++ es).Perm (acc ++ e :: es) :=
      ((insertEntry_perm hnew).append_right es).trans hmiddle.symm
    obtain ⟨hincreasing, hperm⟩ :=
      ih ((hstep.map Prod.fst).nodup_iff.mpr hnodup) hacc.insertEntry
    exact ⟨hincreasing, hperm.trans hstep⟩

/-- An object is made of its entries in any order. -/
theorem ofEntries_perm {es entries : List (String × Value)} (h : Increasing entries) (hperm : es.Perm entries) :
    ofEntries es = .object entries := by
  have hnodup : (([] ++ es).map Prod.fst).Nodup := (hperm.map Prod.fst).nodup_iff.mpr h.nodup
  obtain ⟨hincreasing, hresult⟩ := foldl_insertEntry hnodup List.Pairwise.nil
  rw [ofEntries, List.Perm.eq_of_pairwise (fun a b _ _ hlt hgt => absurd hgt (String.lt_asymm hlt)) hincreasing h
    (hresult.trans hperm)]

/-- Entries are put in their places one after the other, whether their keys are new or not. -/
theorem members_foldl_insertEntry (es : List (String × Value)) {acc : List (String × Value)} (hacc : Increasing acc) :
    Increasing (es.foldl (fun acc e => insertEntry e.1 e.2 acc) acc)
      ∧ (∀ e ∈ es.foldl (fun acc e => insertEntry e.1 e.2 acc) acc, e ∈ acc ∨ e ∈ es)
      ∧ ∀ name, name ∈ (es.foldl (fun acc e => insertEntry e.1 e.2 acc) acc).map Prod.fst
        ↔ name ∈ acc.map Prod.fst ∨ name ∈ es.map Prod.fst := by
  induction es generalizing acc with
  | nil => exact ⟨hacc, fun e he => .inl he, fun name => by simp⟩
  | cons e es ih =>
    have hnext : Increasing (insertEntry e.1 e.2 acc) := hacc.insertEntry
    obtain ⟨hincreasing, hmem, hnames⟩ := ih hnext
    refine ⟨hincreasing, fun f hf => ?_, fun name => ?_⟩
    · rcases hmem f hf with hf | hf
      · rcases mem_of_mem_insertEntry hf with rfl | hf
        · exact .inr List.mem_cons_self
        · exact .inl hf
      · exact .inr (List.mem_cons_of_mem _ hf)
    · rw [List.foldl_cons, hnames, mem_keys_insertEntry, List.map_cons, List.mem_cons, or_assoc, or_left_comm]

/-- The members of an object are among the entries that it is made of, and there is one for every key. -/
theorem ofEntries_members (es : List (String × Value)) : ∃ members, ofEntries es = .object members
    ∧ Increasing members ∧ (∀ e ∈ members, e ∈ es) ∧ ∀ name, name ∈ members.map Prod.fst ↔ name ∈ es.map Prod.fst := by
  obtain ⟨hincreasing, hmem, hnames⟩ := members_foldl_insertEntry es List.Pairwise.nil
  refine ⟨_, rfl, hincreasing, fun e he => (hmem e he).resolve_left List.not_mem_nil, fun name => ?_⟩
  rw [hnames, List.map_nil]
  exact or_iff_right List.not_mem_nil

end Value

end ScriptHost
