import Mathlib
import ScriptHost.Proofs.Chains

/-!
# What a table holds

A table keeps its entries in two parts of changing sizes, and where an entry is depends on all that came
before it.  None of this shows in what the table holds: a key that is added brings its entry and leaves all
others.

* `entries_eq` — the entries of the array part, and then those of the hash part.
* `Sound` — a table in order: each key is there once, and in the part where it is looked for.
* `Gains` — a table in order that holds some entries more.
* `Sound.placeAll`, `Sound.resize` — entries are put where they belong; all entries get new places.
* `bestSize_fair`, `Sound.rehash` — the new sizes leave room for every key.
* `Sound.store` — **a new key adds its entry, and the table is in order again**.
-/

namespace ScriptHost.TableScript.Table

open Text (Bytes)

variable {t t' : Table} {key value : Val} {items : Array Val} {added : List (Val × Val)} {i j n : Nat}

/-! ## Entries -/

/-- The entry of the array part at a place, if there is one. -/
def itemPair? (items : Array Val) (i : Nat) : Option (Val × Val) :=
  if (items.getD i .nil).isNil then none else some (.ofNat (i + 1), items.getD i .nil)

/-- The entries of a section of the array part. -/
def itemEntries (items : Array Val) (start n : Nat) : List (Val × Val) :=
  (List.range' start n).filterMap (itemPair? items)

theorem itemEntries_append (items : Array Val) (m n : Nat) :
    itemEntries items 0 m ++ itemEntries items m n = itemEntries items 0 (m + n) := by
  rw [itemEntries, itemEntries, itemEntries, ← List.filterMap_append, ← List.range'_append, Nat.one_mul,
    Nat.zero_add]

theorem itemPair?_of_le (h : items.size ≤ i) : itemPair? items i = none := by
  rw [itemPair?, Array.getD_eq_getD_getElem?, Array.getElem?_eq_none h]
  rfl

theorem mem_itemEntries {e : Val × Val} {start n : Nat} : e ∈ itemEntries items start n ↔
    ∃ i, start ≤ i ∧ i < start + n ∧ (items.getD i .nil).isNil = false ∧
      e = (.ofNat (i + 1), items.getD i .nil) := by
  simp only [itemEntries, List.mem_filterMap, List.mem_range'_1, itemPair?]
  constructor
  · rintro ⟨i, ⟨hle, hlt⟩, heq⟩
    split at heq
    · cases heq
    · next hvalue => exact ⟨i, hle, hlt, Bool.not_eq_true _ ▸ hvalue, (Option.some.inj heq).symm⟩
  · rintro ⟨i, hle, hlt, hvalue, rfl⟩
    exact ⟨i, ⟨hle, hlt⟩, by rw [hvalue]; rfl⟩

/-- The entries of the array part come first. -/
theorem entries_eq (t : Table) : t.entries = itemEntries t.items 0 t.items.size ++ nodeEntries t.nodes := by
  have hitems : t.items.toList.mapIdx (fun i v => (Val.ofNat (i + 1), v))
      = (List.range' 0 t.items.size).map fun i => (Val.ofNat (i + 1), t.items.getD i .nil) := by
    refine List.ext_getElem (by simp) fun i hi hi' => ?_
    have hlt : i < t.items.size := by simpa using hi'
    simp [List.getElem_mapIdx, List.getElem_range', Array.getD_eq_getD_getElem?, hlt]
  have hfilter (is : List Nat) :
      (is.map fun i => (Val.ofNat (i + 1), t.items.getD i .nil)).filter (fun e => !e.2.isNil)
        = is.filterMap (itemPair? t.items) := by
    induction is with
    | nil => rfl
    | cons i is ih =>
      rw [List.map_cons, List.filter_cons, List.filterMap_cons, ih, itemPair?]
      cases (t.items.getD i .nil).isNil <;> rfl
  have hnodes (ns : List Node) :
      (ns.map fun n => (n.key, n.value)).filter (fun e => !e.2.isNil) = ns.flatMap held := by
    induction ns with
    | nil => rfl
    | cons n ns ih =>
      rw [List.map_cons, List.filter_cons, List.flatMap_cons, ih, held]
      cases n.value.isNil <;> rfl
  rw [entries, List.filter_append, hitems, hfilter, hnodes]
  rfl

/-- The entries that stay in an array part of some size, and the others. -/
theorem entries_split (t : Table) (n : Nat) : t.entries
    = itemEntries t.items 0 n ++ (itemEntries t.items n (t.items.size - n) ++ nodeEntries t.nodes) := by
  have hover : itemEntries t.items t.items.size (n - t.items.size) = [] := by
    refine List.filterMap_eq_nil_iff.mpr fun i hi => ?_
    exact itemPair?_of_le (List.mem_range'_1.mp hi).1
  have hsize : t.items.size + (n - t.items.size) = n + (t.items.size - n) := by omega
  rw [← List.append_assoc, itemEntries_append, ← hsize, ← itemEntries_append, hover, List.append_nil, entries_eq]

/-- An entry has a value. -/
theorem entries_value {e : Val × Val} (h : e ∈ t.entries) : e.2.isNil = false := by
  have hfilter := (List.mem_filter.mp h).2
  rwa [Bool.not_eq_true'] at hfilter

/-- The keys of a table. -/
def keys (t : Table) : List Val := t.entries.map Prod.fst

theorem length_nodeEntries {nodes : Array Node} (h : ∀ i < nodes.size, InUse (nodeAt nodes i)) :
    (nodeEntries nodes).length = nodes.size := by
  have hall : ∀ ns : List Node, (∀ n ∈ ns, InUse n) → (ns.flatMap held).length = ns.length := by
    intro ns hns
    induction ns with
    | nil => rfl
    | cons n ns ih =>
      obtain ⟨hn, hns⟩ := List.forall_mem_cons.mp hns
      rw [List.flatMap_cons, List.length_append, ih hns, held_inUse hn, List.length_cons, Nat.add_comm]
      rfl
  rw [nodeEntries, hall, Array.length_toList]
  intro n hn
  obtain ⟨i, hi, rfl⟩ := Array.mem_iff_getElem.mp (Array.mem_toList_iff.mp hn)
  have hused := h i hi
  rwa [nodeAt, Array.getD_eq_getD_getElem?, Array.getElem?_eq_getElem hi] at hused

theorem mem_nodeEntries {nodes : Array Node} {e : Val × Val} : e ∈ nodeEntries nodes ↔
    ∃ i, i < nodes.size ∧ (nodeAt nodes i).value.isNil = false ∧
      e = ((nodeAt nodes i).key, (nodeAt nodes i).value) := by
  have hheld (n : Node) : e ∈ held n ↔ n.value.isNil = false ∧ e = (n.key, n.value) := by
    rw [held]
    cases n.value.isNil <;> simp
  rw [nodeEntries, List.mem_flatMap]
  constructor
  · rintro ⟨n, hn, he⟩
    obtain ⟨i, hi, rfl⟩ := Array.mem_iff_getElem.mp (Array.mem_toList_iff.mp hn)
    refine ⟨i, hi, ?_⟩
    rw [nodeAt, Array.getD_eq_getD_getElem?, Array.getElem?_eq_getElem hi]
    exact (hheld _).mp he
  · rintro ⟨i, hi, he⟩
    rw [nodeAt, Array.getD_eq_getD_getElem?, Array.getElem?_eq_getElem hi] at he
    exact ⟨nodes[i], Array.mem_toList_iff.mpr (Array.getElem_mem hi), (hheld _).mpr he⟩

/-! ## Places of integers -/

theorem itemIndex?_eq_some (h : t.itemIndex? key = some i) : i < t.items.size ∧ key = .ofNat (i + 1) := by
  cases key with
  | int k =>
    simp only [itemIndex?, Bool.and_eq_true, decide_eq_true_eq] at h
    split at h
    · next hbounds =>
      obtain ⟨hle, hle'⟩ := hbounds
      rw [Int64.le_iff_toInt_le] at hle
      have hone : (1 : Int64).toInt = 1 := by decide
      rw [hone] at hle
      cases h
      refine ⟨by omega, ?_⟩
      have hcast : ((k.toInt.toNat - 1 + 1 : Nat) : Int) = k.toInt := by omega
      rw [Val.ofNat, ← Int64.ofInt_eq_ofNat, hcast, Int64.ofInt_toInt]
    · cases h
  | _ => cases h

theorem one_le_ofNat (hn : n + 1 < 2 ^ 63) : (1 : Int64) ≤ Int64.ofNat (n + 1) := by
  have hone : (1 : Int64).toInt = 1 := by decide
  rw [Int64.le_iff_toInt_le, Int64.toInt_ofNat_of_lt hn]
  omega

theorem itemIndex?_ofNat (hn : n + 1 < 2 ^ 63) :
    t.itemIndex? (.ofNat (n + 1)) = if n < t.items.size then some n else none := by
  have hint : (Int64.ofNat (n + 1)).toInt = ((n + 1 : Nat) : Int) := Int64.toInt_ofNat_of_lt hn
  simp only [Val.ofNat, itemIndex?, hint, one_le_ofNat hn, decide_true, Bool.true_and, decide_eq_true_eq]
  by_cases hlt : n < t.items.size
  · rw [if_pos hlt, if_pos (by omega)]
    congr 1
  · rw [if_neg hlt, if_neg (by omega)]

theorem ofNat_inj {m n : Nat} (hm : m < 2 ^ 63) (hn : n < 2 ^ 63) (h : Val.ofNat m = .ofNat n) : m = n := by
  have hint := congrArg Int64.toInt (Val.int.inj h)
  rw [Int64.toInt_ofNat_of_lt hm, Int64.toInt_ofNat_of_lt hn] at hint
  exact Int.ofNat.inj hint

/-! ## Tables in order -/

/-- The key is an integer from 1 to a number. -/
def fits (n : Nat) : Val → Bool
  | .int i => 1 ≤ i && i.toInt ≤ n
  | _ => false

theorem itemIndex?_eq_none : t.itemIndex? key = none ↔ fits t.items.size key = false := by
  cases key <;> simp [itemIndex?, fits]

/-- The table is in order: each key is there once, and in the part where it is looked for. -/
structure Sound (t : Table) : Prop where
  hashed : Hashed t.nodes t.free
  apart : ∀ e ∈ nodeEntries t.nodes, fits t.items.size e.1 = false
  distinct : t.keys.Nodup
  limit : t.limit = t.items.size
  small : t.items.size ≤ 2 ^ 32

/-- What a table holds after some entries were added. -/
structure Gains (t t' : Table) (added : List (Val × Val)) : Prop where
  sound : Sound t'
  entries : t'.entries.Perm (added ++ t.entries)

theorem Gains.mem_keys (h : Gains t t' added) : key ∈ t'.keys ↔ key ∈ added.map Prod.fst ∨ key ∈ t.keys := by
  rw [keys, (h.entries.map Prod.fst).mem_iff, List.map_append, List.mem_append]
  rfl

theorem Gains.of_empty (h : Gains {} t added) : t.entries.Perm added := by
  have hnone : ({} : Table).entries = [] := rfl
  have hperm := h.entries
  rwa [hnone, List.append_nil] at hperm

theorem mem_keys_of_node (h : InUse (nodeAt t.nodes i)) : (nodeAt t.nodes i).key ∈ t.keys := by
  refine List.mem_map.mpr ⟨((nodeAt t.nodes i).key, (nodeAt t.nodes i).value), ?_, rfl⟩
  rw [entries_eq]
  exact List.mem_append_right _ (mem_nodeEntries.mpr ⟨i, h.lt_size, h.2, rfl⟩)

/-- There is nothing at the place of a new key. -/
theorem item_eq_nil (hnew : key ∉ t.keys) (hi : t.itemIndex? key = some i) :
    t.items.getD i .nil = .nil := by
  obtain ⟨hlt, rfl⟩ := itemIndex?_eq_some hi
  cases hvalue : (t.items.getD i .nil).isNil with
  | true =>
    revert hvalue
    cases t.items.getD i .nil <;> simp [Val.isNil]
  | false =>
    refine absurd (List.mem_map.mpr ⟨(Val.ofNat (i + 1), t.items.getD i .nil), ?_, rfl⟩) hnew
    rw [entries_eq]
    exact List.mem_append_left _ (mem_itemEntries.mpr ⟨i, Nat.zero_le i, by omega, hvalue, rfl⟩)

namespace Sound

/-- As many keys are in the hash part as do not fit into the array part. -/
theorem length_nodeEntries (h : Sound t) :
    (nodeEntries t.nodes).length = t.entries.countP fun e => !fits t.items.size e.1 := by
  have hitems : (itemEntries t.items 0 t.items.size).countP (fun e => !fits t.items.size e.1) = 0 := by
    rw [List.countP_eq_zero]
    intro e he
    obtain ⟨i, -, hi, -, rfl⟩ := mem_itemEntries.mp he
    have hsmall := h.small
    have hindex := itemIndex?_ofNat (t := t) (n := i) (by omega)
    rw [Nat.zero_add] at hi
    rw [if_pos hi] at hindex
    have hsome : t.itemIndex? (.ofNat (i + 1)) ≠ none := by simp [hindex]
    rw [ne_eq, itemIndex?_eq_none] at hsome
    simpa using hsome
  have hnodes : (nodeEntries t.nodes).countP (fun e => !fits t.items.size e.1) = (nodeEntries t.nodes).length := by
    rw [List.countP_eq_length]
    intro e he
    rw [h.apart e he]
    rfl
  rw [entries_eq, List.countP_append, hitems, hnodes, Nat.zero_add]

/-- A key that has a node is among the keys, so the search for a new one finds nothing. -/
theorem node?_eq_none (h : Sound t) (hkey : key.IsPlain) (hnew : key ∉ t.keys) : t.node? key = none := by
  unfold node?
  split
  · rfl
  · cases hfound : findFrom t.nodes key t.nodes.size (mainPlace t.nodes key) with
    | none => rfl
    | some j =>
      obtain ⟨-, hequal⟩ := findFrom_sound hfound
      rcases h.hashed.woven.node j with hempty | hused
      · rw [hempty] at hequal
        revert hequal hkey
        cases key <;> simp [Val.rawEqual, Val.IsPlain]
      · rw [hused.1.rawEqual_iff hkey] at hequal
        exact absurd (hequal ▸ mem_keys_of_node hused) hnew

/-- Entries are added, and the sizes stay. -/
theorem gains (h : Sound t) {nodes : Array Node} {free : Nat} (hnew : key ∉ t.keys)
    (hitems : items.size = t.items.size) (hhashed : Hashed nodes free)
    (hapart : ∀ e ∈ nodeEntries nodes, fits t.items.size e.1 = false)
    (hentries : (itemEntries items 0 items.size ++ nodeEntries nodes).Perm ((key, value) :: t.entries)) :
    Gains t { t with items, nodes, free } [(key, value)] := by
  have hperm : (entries { t with items, nodes, free }).Perm ((key, value) :: t.entries) := by
    rw [entries_eq]
    exact hentries
  refine ⟨⟨hhashed, hitems ▸ hapart, ?_, h.limit.trans hitems.symm, hitems ▸ h.small⟩, hperm⟩
  rw [keys, (hperm.map Prod.fst).nodup_iff, List.map_cons, List.nodup_cons]
  exact ⟨hnew, h.distinct⟩

/-- A new key of the array part. -/
theorem setItem (h : Sound t) (hnew : key ∉ t.keys) (hvalue : value.isNil = false)
    (hi : t.itemIndex? key = some i) :
    Gains t { t with items := t.items.setIfInBounds i value } [(key, value)] := by
  have hnil := item_eq_nil hnew hi
  obtain ⟨hlt, hkey⟩ := itemIndex?_eq_some hi
  have hsize : (t.items.setIfInBounds i value).size = t.items.size := Array.size_setIfInBounds
  have hset (j : Nat) : (t.items.setIfInBounds i value).getD j .nil
      = if j = i then value else t.items.getD j .nil := by
    simp only [Array.getD_eq_getD_getElem?, Array.getElem?_setIfInBounds, if_pos hlt, eq_comm]
    split <;> rfl
  generalize t.items.setIfInBounds i value = items at hsize hset ⊢
  have hsection {start n : Nat} (hout : ∀ j, start ≤ j → j < start + n → j ≠ i) :
      itemEntries items start n = itemEntries t.items start n := by
    refine List.filterMap_congr fun j hj => ?_
    obtain ⟨hle, hlt⟩ := List.mem_range'_1.mp hj
    rw [itemPair?, itemPair?, hset, if_neg (hout j hle hlt)]
  have hsplit (items : Array Val) : itemEntries items 0 t.items.size
      = itemEntries items 0 i ++ (itemEntries items i 1 ++ itemEntries items (i + 1) (t.items.size - (i + 1))) := by
    have hend : i + (1 + (t.items.size - (i + 1))) = t.items.size := by omega
    have hone : itemEntries items i (1 + (t.items.size - (i + 1)))
        = itemEntries items i 1 ++ itemEntries items (i + 1) (t.items.size - (i + 1)) := by
      rw [itemEntries, itemEntries, itemEntries, ← List.filterMap_append, ← List.range'_append, Nat.one_mul]
    rw [← hone, itemEntries_append, hend]
  have hhere : itemEntries items i 1 = [(key, value)] := by
    simp [itemEntries, itemPair?, hset, hvalue, hkey]
  have hthere : itemEntries t.items i 1 = [] := by
    simp [itemEntries, itemPair?, hnil, Val.isNil]
  refine h.gains hnew hsize h.hashed h.apart ?_
  rw [hsize, entries_eq, hsplit items, hsplit t.items, hhere, hthere, hsection (fun j _ hj => by omega),
    hsection (fun j hj _ => by omega), List.nil_append, List.append_assoc, List.append_assoc, List.append_assoc]
  exact List.perm_middle

/-- A new key of the hash part, if a node is free. -/
theorem addNode (h : Sound t) (hkey : key.IsPlain) (hnew : key ∉ t.keys) (hvalue : value.isNil = false)
    (hfits : fits t.items.size key = false) (hunused : ∃ i < t.nodes.size, nodeAt t.nodes i = {}) :
    ∃ nodes free, t.addNode? key value = some { t with nodes, free } ∧ nodes.size = t.nodes.size ∧
      Gains t { t with nodes, free } [(key, value)] := by
  obtain ⟨nodes, free, hadded, hsize, hhashed, hperm⟩ := addNode?_hashed h.hashed hkey hvalue hunused
  refine ⟨nodes, free, hadded, hsize, h.gains hnew rfl hhashed (fun e he => ?_) ?_⟩
  · rcases List.mem_cons.mp (hperm.mem_iff.mp he) with rfl | he
    · exact hfits
    · exact h.apart e he
  · rw [entries_eq]
    exact (hperm.append_left _).trans List.perm_middle

/-- With fewer keys than nodes, some node is unused. -/
theorem exists_unused (h : Sound t) (hroom : (nodeEntries t.nodes).length < t.nodes.size) :
    ∃ i < t.nodes.size, nodeAt t.nodes i = {} := by
  by_contra hnone
  refine absurd (Table.length_nodeEntries fun i hi => ?_) (Nat.ne_of_lt hroom)
  exact (h.hashed.woven.node i).resolve_left fun hempty => hnone ⟨i, hi, hempty⟩

/-- A key is put where it belongs, if there is room. -/
theorem place (h : Sound t) (hkey : key.IsPlain) (hnew : key ∉ t.keys) (hvalue : value.isNil = false)
    (hroom : fits t.items.size key = false → (nodeEntries t.nodes).length < t.nodes.size) :
    Gains t (t.place key value) [(key, value)] ∧ (t.place key value).items.size = t.items.size ∧
      (t.place key value).nodes.size = t.nodes.size := by
  unfold Table.place
  cases hi : t.itemIndex? key with
  | some i => exact ⟨h.setItem hnew hvalue hi, Array.size_setIfInBounds, rfl⟩
  | none =>
    have hfits := itemIndex?_eq_none.mp hi
    obtain ⟨nodes, free, hadded, hsize, hgains⟩ := h.addNode hkey hnew hvalue hfits (h.exists_unused (hroom hfits))
    rw [hadded]
    exact ⟨hgains, rfl, hsize⟩

/-- Entries are put where they belong, one after the other, if there is room for all. -/
theorem placeAll (h : Sound t) {es : List (Val × Val)} (hes : ∀ e ∈ es, e.1.IsPlain ∧ e.2.isNil = false)
    (hdistinct : ((es ++ t.entries).map Prod.fst).Nodup)
    (hroom : ((es ++ t.entries).countP fun e => !fits t.items.size e.1) ≤ t.nodes.size) :
    Gains t (es.foldl (fun t e => t.place e.1 e.2) t) es ∧
      (es.foldl (fun t e => t.place e.1 e.2) t).items.size = t.items.size ∧
      (es.foldl (fun t e => t.place e.1 e.2) t).nodes.size = t.nodes.size := by
  induction es generalizing t with
  | nil => exact ⟨⟨h, .refl _⟩, rfl, rfl⟩
  | cons e es ih =>
    obtain ⟨⟨hkey, hvalue⟩, hes⟩ := List.forall_mem_cons.mp hes
    have hmiddle : (e :: es ++ t.entries).Perm (es ++ e :: t.entries) := List.perm_middle.symm
    have hnew : e.1 ∉ t.keys := by
      rw [List.cons_append, List.map_cons, List.nodup_cons, List.map_append] at hdistinct
      exact fun hmem => hdistinct.1 (List.mem_append_right _ hmem)
    have hspare (hfits : fits t.items.size e.1 = false) : (nodeEntries t.nodes).length < t.nodes.size := by
      rw [List.cons_append, List.countP_cons_of_pos (by simp [hfits]), List.countP_append] at hroom
      rw [h.length_nodeEntries]
      omega
    obtain ⟨⟨hsound, hperm⟩, hitems, hnodes⟩ := h.place hkey hnew hvalue hspare
    have hall : (es ++ (t.place e.1 e.2).entries).Perm (e :: es ++ t.entries) :=
      (hperm.append_left es).trans hmiddle.symm
    obtain ⟨⟨hsound', hperm'⟩, hitems', hnodes'⟩ :=
      ih hsound hes ((hall.map _).nodup_iff.mpr hdistinct) (by rwa [hitems, hnodes, hall.countP_eq])
    exact ⟨⟨hsound', hperm'.trans hall⟩, hitems'.trans hitems, hnodes'.trans hnodes⟩

end Sound

/-! ## New sizes -/

theorem le_pow_ceilLog (n : Nat) : n ≤ 2 ^ ceilLog n := by
  unfold ceilLog
  split
  · omega
  · have hlt := Nat.lt_log2_self (n := n - 1)
    omega

theorem emptyNodes_eq (n : Nat) : ∃ count, n ≤ count ∧ emptyNodes n = Array.replicate count {} := by
  unfold emptyNodes
  split
  · next h => exact ⟨0, Nat.le_of_eq h, rfl⟩
  · exact ⟨_, le_pow_ceilLog n, rfl⟩

/-- A table with parts of new sizes, and what stays in the array part. -/
def emptied (t : Table) (itemCount nodeCount : Nat) : Table :=
  let kept := t.items.extract 0 itemCount
  { t with
    items := kept ++ Array.replicate (itemCount - kept.size) .nil
    limit := itemCount, nodes := emptyNodes nodeCount, free := (emptyNodes nodeCount).size }

/-- The sizes change in an empty table, and then all that did not stay is put there. -/
theorem resize_eq (t : Table) (itemCount nodeCount : Nat) : t.resize itemCount nodeCount
    = (itemEntries t.items itemCount (t.items.size - itemCount) ++ nodeEntries t.nodes).foldl
        (fun t e => t.place e.1 e.2) (t.emptied itemCount nodeCount) := by
  have hnodes (t' : Table) (ns : List Node) :
      ns.foldl (fun t n => if n.value.isNil then t else t.place n.key n.value) t'
        = (ns.flatMap held).foldl (fun t e => t.place e.1 e.2) t' := by
    rw [List.foldl_flatMap]
    congr 1
    funext t' n
    rw [held]
    cases n.value.isNil <;> rfl
  rw [List.foldl_append, nodeEntries, ← hnodes, Array.foldl_toList, itemEntries, List.foldl_filterMap,
    List.range'_eq_map_range, List.foldl_map]
  dsimp only [Table.resize, Table.emptied]
  congr 2
  funext t' k
  rw [itemPair?]
  cases t.items.getD (itemCount + k) .nil <;> rfl

namespace Sound

theorem emptied (h : Sound t) {itemCount : Nat} (nodeCount : Nat) (hsmall : itemCount ≤ 2 ^ 32) :
    Sound (t.emptied itemCount nodeCount) ∧ (t.emptied itemCount nodeCount).items.size = itemCount ∧
      (t.emptied itemCount nodeCount).entries = itemEntries t.items 0 itemCount ∧
      nodeCount ≤ (t.emptied itemCount nodeCount).nodes.size := by
  obtain ⟨count, hcount, hnodes⟩ := emptyNodes_eq nodeCount
  have hsize : (t.emptied itemCount nodeCount).items.size = itemCount := by
    simp only [Table.emptied, Array.size_append, Array.size_extract, Array.size_replicate]
    omega
  have hkept : ∀ i < itemCount, (t.emptied itemCount nodeCount).items.getD i .nil = t.items.getD i .nil := by
    intro i hi
    simp only [Table.emptied, Array.getD_eq_getD_getElem?, Array.getElem?_append, Array.getElem?_extract,
      Array.size_extract, Array.getElem?_replicate]
    by_cases hlt : i < t.items.size
    · rw [if_pos (by omega), if_pos (by omega), Nat.zero_add]
    · rw [if_neg (by omega), if_pos (by omega), Array.getElem?_eq_none (Nat.le_of_not_lt hlt)]
      rfl
  have hnone : nodeEntries (emptyNodes nodeCount) = [] := by
    simp [hnodes, nodeEntries, held_empty]
  have hentries : (t.emptied itemCount nodeCount).entries = itemEntries t.items 0 itemCount := by
    rw [entries_eq, hsize]
    refine (congrArg _ hnone).trans ((List.append_nil _).trans (List.filterMap_congr fun i hi => ?_))
    have hlt : i < 0 + itemCount := (List.mem_range'_1.mp hi).2
    rw [itemPair?, itemPair?, hkept i (by omega)]
  have hnodesize : (emptyNodes nodeCount).size = count := by rw [hnodes, Array.size_replicate]
  refine ⟨⟨⟨?_, Nat.le_refl _, fun i hle hlt => absurd hlt (Nat.not_lt.mpr hle)⟩, ?_, ?_, hsize.symm, ?_⟩, hsize,
    hentries, hnodesize ▸ hcount⟩
  · change Woven (emptyNodes nodeCount)
    exact hnodes ▸ woven_replicate _
  · change ∀ e ∈ nodeEntries (emptyNodes nodeCount), _
    rw [hnone]
    exact fun e he => absurd he List.not_mem_nil
  · refine List.Sublist.nodup (List.Sublist.map _ ?_) h.distinct
    rw [hentries, entries_split t itemCount]
    exact List.sublist_append_left _ _
  · rwa [hsize]

/-- All entries get new places, if there is room for them. -/
theorem resize (h : Sound t) {itemCount nodeCount : Nat} (hsmall : itemCount ≤ 2 ^ 32)
    (hroom : (t.entries.countP fun e => !fits itemCount e.1) ≤ nodeCount) :
    Gains t (t.resize itemCount nodeCount) [] ∧ (t.resize itemCount nodeCount).items.size = itemCount ∧
      nodeCount ≤ (t.resize itemCount nodeCount).nodes.size := by
  obtain ⟨hsound, hitems, hentries, hnodes⟩ := h.emptied nodeCount hsmall
  have hall : (itemEntries t.items itemCount (t.items.size - itemCount) ++ nodeEntries t.nodes
      ++ (t.emptied itemCount nodeCount).entries).Perm t.entries := by
    rw [hentries, entries_split t itemCount]
    exact List.perm_append_comm
  have hplain : ∀ e ∈ itemEntries t.items itemCount (t.items.size - itemCount) ++ nodeEntries t.nodes,
      e.1.IsPlain ∧ e.2.isNil = false := by
    intro e he
    rcases List.mem_append.mp he with he | he
    · obtain ⟨i, -, -, hvalue, rfl⟩ := mem_itemEntries.mp he
      exact ⟨trivial, hvalue⟩
    · obtain ⟨i, -, hvalue, rfl⟩ := mem_nodeEntries.mp he
      rcases h.hashed.woven.node i with hempty | hused
      · rw [hempty] at hvalue
        cases hvalue
      · exact hused
  obtain ⟨⟨hsound', hperm⟩, hitems', hnodes'⟩ := hsound.placeAll hplain ((hall.map _).nodup_iff.mpr h.distinct)
    (by rw [hitems, hall.countP_eq]; exact Nat.le_trans hroom hnodes)
  rw [← resize_eq] at hsound' hperm hitems' hnodes'
  exact ⟨⟨hsound', hperm.trans hall⟩, hitems'.trans hitems, hnodes' ▸ hnodes⟩

end Sound

/-! ## The best size -/

/-- Where a key counts for the size of the array part. -/
def level? : Val → Option Nat
  | .int i => if 1 ≤ i && i.toInt ≤ 0x80000000 then some (ceilLog i.toInt.toNat) else none
  | _ => none

/-- The key counts below some level. -/
def countsBelow (k : Nat) (key : Val) : Bool := (level? key).any (· < k)

theorem countKeys_le (keys : Array Val) (k : Nat) :
    (countKeys keys).getD k 0 ≤ keys.toList.countP fun key => level? key == some k := by
  have hfold : ∀ (keys : List Val) (slots : Array Nat),
      (keys.foldl (fun slots key => match key with
        | .int i =>
          if 1 ≤ i && i.toInt ≤ 0x80000000 then slots.modify (ceilLog i.toInt.toNat) (· + 1) else slots
        | _ => slots) slots).getD k 0 ≤ slots.getD k 0 + keys.countP fun key => level? key == some k := by
    intro keys
    induction keys with
    | nil => exact fun slots => Nat.le_refl _
    | cons key keys ih =>
      intro slots
      rw [List.foldl_cons, List.countP_cons]
      refine Nat.le_trans (ih _) ?_
      have hstep (l : Nat) : (slots.modify l (· + 1)).getD k 0 ≤ slots.getD k 0 + if l = k then 1 else 0 := by
        simp only [Array.getD_eq_getD_getElem?, Array.getElem?_modify]
        split
        · cases slots[k]? <;> simp
        · exact Nat.le_refl _
      cases key with
      | int i =>
        simp only [level?]
        split
        · have hle := hstep (ceilLog i.toInt.toNat)
          simp only [beq_iff_eq, Option.some.injEq]
          omega
        · simp
      | _ => simp [level?]
  have hle := hfold keys.toList (Array.replicate 33 0)
  have hzero : (Array.replicate 33 0).getD k 0 = 0 := by
    simp only [Array.getD_eq_getD_getElem?, Array.getElem?_replicate]
    split <;> rfl
  rw [hzero, Nat.zero_add, Array.foldl_toList] at hle
  exact hle

theorem fits_of_countsBelow {k : Nat} (h : countsBelow (k + 1) key = true) : fits (2 ^ k) key = true := by
  cases key with
  | int i =>
    rw [countsBelow, level?] at h
    split at h
    · next hbounds =>
      simp only [Option.any_some, decide_eq_true_eq] at h
      have hpow := le_pow_ceilLog i.toInt.toNat
      have hmono : 2 ^ ceilLog i.toInt.toNat ≤ 2 ^ k := Nat.pow_le_pow_right (by omega) (by omega)
      simp only [Bool.and_eq_true, decide_eq_true_eq] at hbounds
      simp only [fits, hbounds.1, decide_true, Bool.true_and, decide_eq_true_eq]
      omega
    · cases h
  | _ => cases h

theorem countP_countsBelow (keys : List Val) (k : Nat) : keys.countP (countsBelow (k + 1))
    = keys.countP (countsBelow k) + keys.countP fun key => level? key == some k := by
  induction keys with
  | nil => rfl
  | cons key keys ih =>
    rw [List.countP_cons, List.countP_cons, List.countP_cons, ih, countsBelow, countsBelow]
    cases level? key with
    | none => simp
    | some l =>
      simp only [Option.any_some, decide_eq_true_eq, beq_iff_eq, Option.some.injEq]
      split_ifs <;> omega

/-- A size, and a number of keys of which as many fit into an array part of that size. -/
def Fair (keys : List Val) (best : Nat × Nat) : Prop := best.1 ≤ 2 ^ 32 ∧ best.2 ≤ keys.countP (fits best.1)

theorem bestSize_go_fair {keys : List Val} {slots : Array Nat} {total fuel k below : Nat} {best : Nat × Nat}
    (hslots : ∀ k, slots.getD k 0 ≤ keys.countP fun key => level? key == some k) (hbest : Fair keys best)
    (hbelow : below ≤ keys.countP (countsBelow k)) (hfuel : fuel + k ≤ 33) :
    Fair keys (bestSize.go slots total fuel k below best) := by
  induction fuel generalizing k below best with
  | zero => exact hbest
  | succ fuel ih =>
    have hnext : below + slots.getD k 0 ≤ keys.countP (countsBelow (k + 1)) := by
      rw [countP_countsBelow]
      exact Nat.add_le_add hbelow (hslots k)
    have hfair : Fair keys (2 ^ k, below + slots.getD k 0) := by
      refine ⟨Nat.pow_le_pow_right (by omega) (by omega), Nat.le_trans hnext ?_⟩
      exact List.countP_mono_left fun key _ h => fits_of_countsBelow h
    rw [bestSize.go]
    split
    · refine ih ?_ hnext (by omega)
      split
      · exact hfair
      · exact hbest
    · exact hbest

/-- What goes to an array part of the best size fits there. -/
theorem bestSize_fair (keys : Array Val) : Fair keys.toList (bestSize (countKeys keys)) :=
  bestSize_go_fair (countKeys_le keys) ⟨Nat.zero_le _, Nat.zero_le _⟩ (Nat.zero_le _) (Nat.le_refl _)

/-- A rehash gives sizes that suit the keys and one more. -/
theorem rehash_eq (t : Table) (key : Val) : ∃ size inItems, Fair (t.keys ++ [key]) (size, inItems) ∧
    t.rehash key = t.resize size (t.entries.length + 1 - inItems) := by
  unfold rehash
  generalize hitems : (Array.range t.items.size).filterMap (fun i =>
    if (t.items.getD i .nil).isNil then none else some (Val.ofNat (i + 1))) = itemKeys
  generalize hnodes : t.nodes.filterMap (fun n => if n.value.isNil then none else some n.key) = nodeKeys
  have hitemKeys : itemKeys.toList = (itemEntries t.items 0 t.items.size).map Prod.fst := by
    rw [← hitems, Array.toList_filterMap, Array.toList_range, List.range_eq_range', itemEntries, List.map_filterMap]
    refine List.filterMap_congr fun i _ => ?_
    rw [itemPair?]
    cases (t.items.getD i .nil).isNil <;> rfl
  have hnodeKeys : nodeKeys.toList = (nodeEntries t.nodes).map Prod.fst := by
    rw [← hnodes, Array.toList_filterMap, nodeEntries, List.map_flatMap, List.filterMap_eq_flatMap_toList]
    refine List.flatMap_congr fun n _ => ?_
    rw [held]
    cases n.value.isNil <;> rfl
  have hkeys : ((itemKeys ++ nodeKeys).push key).toList = t.keys ++ [key] := by
    rw [Array.toList_push, Array.toList_append, hitemKeys, hnodeKeys, keys, entries_eq, List.map_append]
  have hsize : ((itemKeys ++ nodeKeys).push key).size = t.entries.length + 1 := by
    rw [← Array.length_toList, hkeys, keys, List.length_append, List.length_map]
    rfl
  have hfair := bestSize_fair ((itemKeys ++ nodeKeys).push key)
  rw [hkeys] at hfair
  dsimp only
  rw [hsize]
  generalize bestSize (countKeys ((itemKeys ++ nodeKeys).push key)) = best at hfair ⊢
  exact ⟨best.1, best.2, hfair, rfl⟩

/-- Without a free node no key is added. -/
theorem addNode?_full (h : ∀ i < t.nodes.size, InUse (nodeAt t.nodes i)) (hle : t.free ≤ t.nodes.size)
    (hkey : key.IsPlain) : t.addNode? key value = none := by
  unfold addNode?
  split
  · rfl
  · next hsize =>
    have hused := h _ (mainPlace_lt (Nat.pos_of_ne_zero hsize) hkey)
    have hnone : freeBelow t.nodes t.free = none := by
      cases hfound : freeBelow t.nodes t.free with
      | none => rfl
      | some free =>
        obtain ⟨hlt, hnil, -⟩ := freeBelow_eq_some hfound
        rw [(h free (Nat.lt_of_lt_of_le hlt hle)).1.isNil] at hnil
        cases hnil
    rw [nodeAt] at hused
    dsimp only
    rw [hused.2, hnone]
    rfl

namespace Sound

/-- After a rehash there is room for one key more. -/
theorem rehash (h : Sound t) (key : Val) : Gains t (t.rehash key) [] ∧
    (fits (t.rehash key).items.size key = false →
      (nodeEntries (t.rehash key).nodes).length < (t.rehash key).nodes.size) := by
  obtain ⟨size, inItems, ⟨hsmall, hfair⟩, heq⟩ := rehash_eq t key
  rw [heq]
  dsimp only at hsmall hfair
  have hsplit : t.entries.length = (t.entries.countP fun e => fits size e.1)
      + t.entries.countP fun e => !fits size e.1 := by
    rw [List.length_eq_countP_add_countP fun e => fits size e.1]
    simp only [Bool.not_eq_true, Bool.decide_eq_false]
  have hcount : t.keys.countP (fits size) = t.entries.countP fun e => fits size e.1 := by
    rw [keys, List.countP_map]
    rfl
  rw [List.countP_append, hcount, List.countP_singleton] at hfair
  have hroom : (t.entries.countP fun e => !fits size e.1) ≤ t.entries.length + 1 - inItems := by
    split at hfair <;> omega
  obtain ⟨hgains, hitems, hnodes⟩ := h.resize hsmall hroom
  refine ⟨hgains, fun hnot => ?_⟩
  rw [hitems] at hnot
  rw [hnot, if_neg Bool.false_ne_true] at hfair
  have hlength := hgains.sound.length_nodeEntries
  rw [hitems, hgains.entries.countP_eq, List.nil_append] at hlength
  omega

/-- **A new key is stored**: its entry is added to those that are there. -/
theorem store (h : Sound t) (hkey : key.IsPlain) (hnew : key ∉ t.keys) (hvalue : value.isNil = false) :
    Gains t (t.store key value) [(key, value)] := by
  unfold Table.store
  rw [hkey.normalKey]
  dsimp only
  cases hi : t.itemIndex? key with
  | some i => exact h.setItem hnew hvalue hi
  | none =>
    dsimp only
    rw [h.node?_eq_none hkey hnew]
    dsimp only
    rw [hvalue, if_neg Bool.false_ne_true]
    have hfits := itemIndex?_eq_none.mp hi
    by_cases hunused : ∃ i < t.nodes.size, nodeAt t.nodes i = {}
    · obtain ⟨nodes, free, hadded, -, hgains⟩ := h.addNode hkey hnew hvalue hfits hunused
      rw [hadded]
      exact hgains
    · have hused : ∀ i < t.nodes.size, InUse (nodeAt t.nodes i) := fun i hi =>
        (h.hashed.woven.node i).resolve_left fun hempty => hunused ⟨i, hi, hempty⟩
      rw [addNode?_full hused h.hashed.le_size hkey]
      obtain ⟨hgains, hspare⟩ := h.rehash key
      have hnew' : key ∉ (t.rehash key).keys := fun hmem => hnew ((hgains.entries.map Prod.fst).mem_iff.mp hmem)
      obtain ⟨⟨hsound, hperm⟩, -⟩ := hgains.sound.place hkey hnew' hvalue hspare
      exact ⟨hsound, hperm.trans (hgains.entries.append_left _)⟩

/-- The table without entries. -/
theorem empty : Sound {} where
  hashed := ⟨woven_replicate 0, Nat.le_refl _, fun i _ hi => absurd hi (Nat.not_lt_zero i)⟩
  apart := fun _ he => absurd he List.not_mem_nil
  distinct := List.nodup_nil
  limit := rfl
  small := Nat.zero_le _

/-- A new key of which there is nothing to store. -/
theorem store_nil (h : Sound t) (hkey : key.IsPlain) (hnew : key ∉ t.keys) : t.store key .nil = t := by
  unfold Table.store
  rw [hkey.normalKey]
  dsimp only
  cases hi : t.itemIndex? key with
  | some i =>
    have hnil := item_eq_nil hnew hi
    obtain ⟨hlt, -⟩ := itemIndex?_eq_some hi
    have hset : t.items.setIfInBounds i .nil = t.items := by
      refine Array.ext_getElem? fun j => ?_
      rw [Array.getElem?_setIfInBounds]
      split
      · next hj =>
        rw [Array.getD_eq_getD_getElem?, Array.getElem?_eq_getElem hlt, Option.getD_some] at hnil
        rw [← hj, Array.getElem?_eq_getElem hlt, hnil]
      · rfl
    dsimp only
    rw [hset]
  | none =>
    dsimp only
    rw [h.node?_eq_none hkey hnew]
    rfl

end Sound

end ScriptHost.TableScript.Table
