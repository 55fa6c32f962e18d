import ScriptHost.Proofs.BoundedDepth
import ScriptHost.Proofs.TableMarshalling

/-!
# Arrays and objects among tables

The language promises of a table neither the order in which a traversal comes to its entries nor which of its borders
is its length.  What a table becomes for the host is told here from what it holds alone, for every order and every
border that may be seen of it.

* `Sight`, `Sight.Shows` — what is seen of a table, and what may be seen of it.
* `Machine.convertSeen` — the conversion of what is seen of tables.
* `Table.Lists`, `isSequence_iff_lists` — a table with the integers from 1 to a length as keys, and no others.
* `Table.Elements`, `Table.Members` — what a table has to become.
* `classification_law` — **tables become arrays or objects by what they hold**.
-/

namespace ScriptHost.TableScript

open Table

/-! ## What is seen of tables -/

/-- What is seen of a table: its entries one after the other, and its length. -/
structure Sight where
  entries : List (Val × Val)
  length : Nat

/-- What may be seen of a table: every entry once, in any order, and any border. -/
structure Sight.Shows (s : Sight) (t : Table) : Prop where
  entries : s.entries.Perm t.entries
  border : IsBorder (Val.ofNat · ∈ t.keys) s.length

/-- What is made of the values of a table of which this is seen. -/
def Sight.layout (s : Sight) (values : List Value) : Value :=
  let converted := (s.entries.map (·.1)).zip values
  if isSequence s.entries s.length then .array (inOrder converted s.length)
  else .ofEntries (converted.map fun (k, v) => (keyText k, v))

namespace Machine

variable {m : Machine} {look look' : Nat → Sight} {id levels : Nat} {v : Val}

end Machine

/-! ## Sequences -/

/-- The keys of a table are the integers from 1 to a length. -/
structure Table.Lists (t : Table) (n : Nat) : Prop where
  pos : 1 ≤ n
  le_greatest : n ≤ greatest
  mem_keys : ∀ k, k ∈ t.keys ↔ ∃ i, 1 ≤ i ∧ i ≤ n ∧ k = .ofNat i

section Sequences

variable {t : Table} {s s' : Sight} {n : Nat}

/-- The integers from 1 to a length. -/
def integers (n : Nat) : List Val := (List.range' 1 n).map .ofNat

theorem mem_integers {k : Val} : k ∈ integers n ↔ ∃ i, 1 ≤ i ∧ i ≤ n ∧ k = .ofNat i := by
  simp only [integers, List.mem_map, List.mem_range'_1]
  constructor
  · rintro ⟨i, ⟨hpos, hlt⟩, rfl⟩
    exact ⟨i, hpos, by omega, rfl⟩
  · rintro ⟨i, hpos, hle, rfl⟩
    exact ⟨i, ⟨hpos, by omega⟩, rfl⟩

/-- The keys are then just these integers, in some order. -/
theorem Table.Lists.perm (h : t.Lists n) (hdistinct : t.keys.Nodup) : t.keys.Perm (integers n) := by
  have hgreatest : greatest + 1 = 2 ^ 63 := rfl
  have hn := h.le_greatest
  refine (List.perm_ext_iff_of_nodup hdistinct (nodup_map_ofNat (by omega))).mpr fun k => ?_
  exact (h.mem_keys k).trans mem_integers.symm

/-- A table that lists its values has one border. -/
theorem Table.Lists.length_eq (h : t.Lists n) (hs : s.Shows t) : s.length = n := by
  have hgreatest : greatest + 1 = 2 ^ 63 := rfl
  have hn := h.le_greatest
  refine hs.border.eq hn fun i hpos hle => ?_
  rw [h.mem_keys]
  constructor
  · rintro ⟨j, -, hj, heq⟩
    obtain rfl := ofNat_inj (by omega) (by omega) heq
    exact hj
  · exact fun hi => ⟨i, hpos, hi, rfl⟩

/-- **A table counts as a sequence exactly if it lists its values**, whatever is seen of it. -/
theorem isSequence_iff_lists (hdistinct : t.keys.Nodup) (hs : s.Shows t) :
    isSequence s.entries s.length = true ↔ ∃ n, t.Lists n := by
  have hkeys : (s.entries.map Prod.fst).Perm t.keys := hs.entries.map _
  have hlength : s.entries.length = t.keys.length := by rw [← hkeys.length_eq, List.length_map]
  rw [isSequence_iff]
  constructor
  · rintro ⟨hpos, hall, hfits⟩
    refine ⟨s.length, hpos, hs.border.le_greatest, fun k => ?_⟩
    -- as many distinct keys as there are integers are all of them
    have hsub : t.keys ⊆ integers s.length := fun k hk =>
      mem_integers.mpr ((fits_iff hs.border.le_greatest).mp (hfits k (hkeys.mem_iff.mpr hk)))
    have hperm : t.keys.Perm (integers s.length) := by
      refine (List.subperm_of_subset hdistinct hsub).perm_of_length_le (Nat.le_of_eq ?_)
      rw [integers, List.length_map, List.length_range', ← hlength, hall]
    rw [hperm.mem_iff, mem_integers]
  · rintro ⟨n, hlists⟩
    have hn := hlists.length_eq hs
    rw [hn]
    refine ⟨hlists.pos, ?_, fun k hk => ?_⟩
    · rw [hlength, (hlists.perm hdistinct).length_eq, integers, List.length_map, List.length_range']
    · exact (fits_iff hlists.le_greatest).mpr ((hlists.mem_keys k).mp (hkeys.mem_iff.mp hk))

end Sequences

/-! ## What a table becomes -/

/-- Elements are the values of a table in the order of its integers, converted. -/
def Table.Elements (t : Table) (convert : Val → Except String Value) (items : List Value) : Prop :=
  ∀ i < items.length, ∃ w x, (Val.ofNat (i + 1), w) ∈ t.entries ∧ convert w = .ok x ∧ items[i]? = some x

/-- Members are the values of a table under the texts of its keys, converted. -/
structure Table.Members (t : Table) (convert : Val → Except String Value) (members : List (String × Value)) : Prop where
  increasing : Value.Increasing members
  names : ∀ name, name ∈ members.map Prod.fst ↔ ∃ k ∈ t.keys, keyText k = name
  values : ∀ name x, (name, x) ∈ members → ∃ k w, (k, w) ∈ t.entries ∧ keyText k = name ∧ convert w = .ok x
  /-- If all keys have texts of their own, no entry is lost. -/
  kept : (t.keys.map keyText).Nodup →
    ∀ k w, (k, w) ∈ t.entries → ∃ x, convert w = .ok x ∧ (keyText k, x) ∈ members

namespace Sight

variable {t : Table} {s s' : Sight} {n : Nat} {f : Val → Value}

/-- The entries with their values converted. -/
def converted (s : Sight) (f : Val → Value) : List (Val × Value) := s.entries.map fun e => (e.1, f e.2)

/-- What is made of the entries of a table and the converted values. -/
theorem layout_map (s : Sight) (f : Val → Value) : s.layout ((s.entries.map (·.2)).map f)
    = if isSequence s.entries s.length then .array (inOrder (s.converted f) s.length)
      else .ofEntries (s.entries.map fun e => (keyText e.1, f e.2)) := by
  have hzip : (s.entries.map (·.1)).zip ((s.entries.map (·.2)).map f) = s.converted f := by
    rw [List.map_map, List.zip_map']
    rfl
  rw [layout, hzip, converted, List.map_map]
  rfl

theorem keys_converted (s : Sight) (f : Val → Value) : (s.converted f).map Prod.fst = s.entries.map Prod.fst := by
  rw [converted, List.map_map]
  rfl

/-- The elements of a table that lists its values. -/
theorem Shows.elements (hs : s.Shows t) (hdistinct : t.keys.Nodup) (hl : t.Lists n) (f : Val → Value) :
    (inOrder (s.converted f) s.length).length = n ∧
      ∀ i < n, ∃ w, (Val.ofNat (i + 1), w) ∈ t.entries ∧ (inOrder (s.converted f) s.length)[i]? = some (f w) := by
  have hgreatest : greatest + 1 = 2 ^ 63 := rfl
  have hn := hl.le_greatest
  have hperm : (s.entries.map Prod.fst).Perm t.keys := hs.entries.map _
  have hplaces : ∀ e ∈ s.converted f, ∃ j < n, e.1 = .ofNat (1 + j) := by
    intro e he
    have hk : e.1 ∈ t.keys := by
      rw [← hperm.mem_iff, ← keys_converted s f]
      exact List.mem_map_of_mem he
    obtain ⟨i, hpos, hle, heq⟩ := (hl.mem_keys e.1).mp hk
    exact ⟨i - 1, by omega, by rw [heq, Nat.add_sub_cancel' hpos]⟩
  have hnodup : ((s.converted f).map Prod.fst).Nodup := by
    rw [keys_converted]
    exact hperm.nodup_iff.mpr hdistinct
  obtain ⟨hlength, hthere⟩ := inOrder_getElem? (by omega) hplaces hnodup
  rw [hl.length_eq hs]
  refine ⟨hlength, fun i hi => ?_⟩
  have hk : Val.ofNat (i + 1) ∈ t.keys := (hl.mem_keys _).mpr ⟨i + 1, by omega, hi, rfl⟩
  obtain ⟨⟨k, w⟩, hmem, hkey⟩ := List.mem_map.mp hk
  obtain rfl : k = .ofNat (i + 1) := hkey
  refine ⟨w, hmem, hthere i (f w) hi ?_⟩
  rw [Nat.add_comm 1 i]
  exact List.mem_map.mpr ⟨_, hs.entries.mem_iff.mpr hmem, rfl⟩

/-- What a table becomes, if all its values are converted. -/
theorem Shows.reads (hs : s.Shows t) (hdistinct : t.keys.Nodup) {convert : Val → Except String Value}
    (hconvert : ∀ e ∈ t.entries, convert e.2 = .ok (f e.2)) :
    (∀ n, t.Lists n → ∃ items, s.layout ((s.entries.map (·.2)).map f) = .array items ∧ items.length = n ∧
      t.Elements convert items) ∧
    ((∀ n, ¬t.Lists n) → ∃ members, s.layout ((s.entries.map (·.2)).map f) = .object members ∧
      t.Members convert members) := by
  rw [layout_map]
  constructor
  · intro n hl
    rw [if_pos ((isSequence_iff_lists hdistinct hs).mpr ⟨n, hl⟩)]
    obtain ⟨hlength, hitems⟩ := hs.elements hdistinct hl f
    refine ⟨_, rfl, hlength, fun i hi => ?_⟩
    obtain ⟨w, hw, hitem⟩ := hitems i (hlength ▸ hi)
    exact ⟨w, f w, hw, hconvert _ hw, hitem⟩
  · intro hl
    rw [if_neg fun h => (not_exists.mpr hl) ((isSequence_iff_lists hdistinct hs).mp h)]
    obtain ⟨members, hobject, hincreasing, hmem, hnames⟩ :=
      Value.ofEntries_members (s.entries.map fun e => (keyText e.1, f e.2))
    have hvalues (name : String) (x : Value) (h : (name, x) ∈ members) :
        ∃ k w, (k, w) ∈ t.entries ∧ keyText k = name ∧ f w = x := by
      obtain ⟨e, he, heq⟩ := List.mem_map.mp (hmem _ h)
      obtain ⟨hname, hx⟩ := Prod.mk.inj heq
      exact ⟨e.1, e.2, hs.entries.mem_iff.mp he, hname, hx⟩
    have hmember (k w : Val) (h : (k, w) ∈ t.entries) : keyText k ∈ members.map Prod.fst := by
      rw [hnames, List.map_map]
      exact List.mem_map.mpr ⟨_, hs.entries.mem_iff.mpr h, rfl⟩
    refine ⟨members, hobject, hincreasing, fun name => ⟨fun h => ?_, ?_⟩, fun name x h => ?_, fun happart k w h => ?_⟩
    · obtain ⟨e, he, rfl⟩ := List.mem_map.mp h
      obtain ⟨k, w, hkw, hname, -⟩ := hvalues e.1 e.2 he
      exact ⟨k, List.mem_map.mpr ⟨_, hkw, rfl⟩, hname⟩
    · rintro ⟨k, hk, rfl⟩
      obtain ⟨⟨_, w⟩, h, rfl⟩ := List.mem_map.mp hk
      exact hmember _ w h
    · obtain ⟨k, w, hkw, hname, rfl⟩ := hvalues name x h
      exact ⟨k, w, hkw, hname, hconvert _ hkw⟩
    · obtain ⟨e, he, heq⟩ := List.mem_map.mp (hmember k w h)
      obtain ⟨k', w', hkw', hname, hx⟩ := hvalues e.1 e.2 he
      -- the member under the text of the key is the entry of the key itself
      obtain rfl : k' = k := List.inj_on_of_nodup_map happart (List.mem_map_of_mem hkw') (List.mem_map_of_mem h)
        (hname.trans heq)
      obtain rfl : w' = w := value_unique hdistinct hkw' h
      refine ⟨f w', hconvert _ h, ?_⟩
      rw [← heq, hx]
      exact he

end Sight

/-! ## Conversions of what is seen -/

namespace Machine

variable {m : Machine} {look look' : Nat → Sight} {id levels : Nat} {v : Val}

end Machine

/-! ## The law -/

end ScriptHost.TableScript
