import ScriptHost.Proofs.Tables

/-!
# Reading tables

What a table answers depends only on what it holds, and neither on the sizes of its parts nor on the order in
which its keys came.

* `Sound.get_of_mem`, `Sound.get_of_not_mem` — a key has the value of its entry, and `nil` if it has none.
* `searchItems_border`, `searchInts_border`, `searchAbove_border` — a search from a value to a gap finds a border.
* `border_isBorder` — **whatever a table holds, the border is one**.
* `Sound.border` — the border is the length, if the integers in use are those up to a length.
-/

namespace ScriptHost.TableScript.Table

variable {t : Table} {key value : Val} {items : Array Val} {i n : Nat}

/-! ## Values -/

theorem value_unique (h : t.keys.Nodup) {v w : Val} (hv : (key, v) ∈ t.entries) (hw : (key, w) ∈ t.entries) :
    v = w := by
  have hpair := List.inj_on_of_nodup_map h hv hw rfl
  exact (Prod.mk.inj hpair).2

/-- The integers up to the size of the array part are read there. -/
theorem get_item (hsmall : t.items.size ≤ 2 ^ 32) (hi : i < t.items.size) :
    t.get (.ofNat (i + 1)) = t.items.getD i .nil := by
  unfold get
  rw [Val.IsPlain.normalKey (k := .ofNat (i + 1)) trivial]
  dsimp only
  rw [itemIndex?_ofNat (by omega), if_pos hi]

/-- Without a hash part there are no integers above the size of the array part. -/
theorem not_hasInt (hsmall : t.items.size ≤ 2 ^ 32) (hnodes : t.nodes.size = 0) :
    t.hasInt (t.items.size + 1) = false := by
  rw [hasInt, get, Val.IsPlain.normalKey (k := .ofNat (t.items.size + 1)) trivial,
    itemIndex?_ofNat (by omega), if_neg (Nat.lt_irrefl _), node?, if_pos hnodes]
  rfl

namespace Sound

/-- A key that is there has a place, and its value is read from there. -/
theorem get_of_mem (h : Sound t) (hkey : key.IsPlain) (hmem : (key, value) ∈ t.entries) : t.get key = value := by
  unfold get
  rw [hkey.normalKey]
  dsimp only
  have hmem' := hmem
  rw [entries_eq, List.mem_append] at hmem'
  rcases hmem' with hitem | hnode
  · obtain ⟨i, -, hlt, -, heq⟩ := mem_itemEntries.mp hitem
    obtain ⟨rfl, rfl⟩ := Prod.mk.inj heq
    rw [Nat.zero_add] at hlt
    have hsmall := h.small
    rw [itemIndex?_ofNat (by omega), if_pos hlt]
  · rw [itemIndex?_eq_none.mpr (h.apart _ hnode)]
    obtain ⟨i, hlt, hvalue, heq⟩ := mem_nodeEntries.mp hnode
    obtain ⟨hk, hv⟩ := Prod.mk.inj heq
    have hused : InUse (nodeAt t.nodes i) := ⟨hk ▸ hkey, hvalue⟩
    obtain ⟨j, hfound, hj, hsame⟩ := h.hashed.woven.findFrom hused
    have hnode? : t.node? key = some j := by
      unfold node?
      rw [if_neg (Nat.ne_of_gt (Nat.zero_lt_of_lt hlt)), hk]
      exact hfound
    rw [hnode?]
    refine value_unique h.distinct ?_ hmem
    rw [entries_eq, List.mem_append]
    exact .inr (mem_nodeEntries.mpr ⟨j, hj.lt_size, hj.2, by rw [hsame, ← hk]; rfl⟩)

/-- A key that is not there has no value. -/
theorem get_of_not_mem (h : Sound t) (hkey : key.IsPlain) (hnew : key ∉ t.keys) : t.get key = .nil := by
  unfold get
  rw [hkey.normalKey]
  dsimp only
  cases hi : t.itemIndex? key with
  | some i => exact item_eq_nil hnew hi
  | none =>
    rw [h.node?_eq_none hkey hnew]

theorem hasInt_iff (h : Sound t) : t.hasInt i = true ↔ Val.ofNat i ∈ t.keys := by
  have hkey : (Val.ofNat i).IsPlain := trivial
  rw [hasInt, Bool.not_eq_true']
  constructor
  · intro hvalue
    by_contra hnew
    rw [h.get_of_not_mem hkey hnew] at hvalue
    cases hvalue
  · intro hmem
    obtain ⟨e, he, hfirst⟩ := List.mem_map.mp hmem
    have hentry : (Val.ofNat i, e.2) ∈ t.entries := hfirst ▸ he
    rw [h.get_of_mem hkey hentry]
    exact entries_value he

end Sound

/-! ## Borders -/

/-- A number that the length of a table may be, if these integers are in use: it is zero or in use, and the next one
is not in use, if there is a next one. -/
structure IsBorder (used : Nat → Prop) (n : Nat) : Prop where
  le_greatest : n ≤ greatest
  start : n = 0 ∨ used n
  stop : n = greatest ∨ ¬used (n + 1)

/-- There is one border only, if the integers in use are those up to a length. -/
theorem IsBorder.eq {used : Nat → Prop} {b : Nat} (h : IsBorder used b) (hn : n ≤ greatest)
    (hused : ∀ i, 0 < i → i ≤ greatest → (used i ↔ i ≤ n)) : b = n := by
  refine Nat.le_antisymm ?_ ?_
  · rcases Nat.eq_zero_or_pos b with rfl | hpos
    · exact Nat.zero_le n
    · have hb : used b := h.start.resolve_left (Nat.ne_of_gt hpos)
      exact (hused b hpos h.le_greatest).mp hb
  · rcases h.stop with rfl | hnext
    · exact hn
    · by_contra hlt
      exact hnext ((hused (b + 1) (Nat.succ_pos b) (by omega)).mpr (by omega))

/-! ## Searches -/

/-- Between an item and a gap there is an item before a gap. -/
theorem searchItems_border {fuel low high : Nat} (hlow : low = 0 ∨ (items.getD (low - 1) .nil).isNil = false)
    (hhigh : (items.getD (high - 1) .nil).isNil = true) (hlt : low < high) (hfuel : high - low ≤ 2 ^ fuel) :
    searchItems items fuel low high < high ∧
      (searchItems items fuel low high = 0 ∨
        (items.getD (searchItems items fuel low high - 1) .nil).isNil = false) ∧
      (items.getD (searchItems items fuel low high) .nil).isNil = true := by
  have hnext (h : high = low + 1) : low < high ∧ (low = 0 ∨ (items.getD (low - 1) .nil).isNil = false) ∧
      (items.getD low .nil).isNil = true := by
    refine ⟨hlt, hlow, ?_⟩
    rwa [h, Nat.add_sub_cancel] at hhigh
  induction fuel generalizing low high with
  | zero => exact hnext (by omega)
  | succ fuel ih =>
    rw [searchItems]
    split
    · dsimp only
      split
      · next hmid =>
        obtain ⟨hbelow, hfound⟩ := ih hlow hmid (by omega) (by omega) fun h => by
          rw [h, Nat.add_sub_cancel] at hmid
          exact ⟨by omega, hlow, hmid⟩
        exact ⟨by omega, hfound⟩
      · next hmid =>
        rw [Bool.not_eq_true] at hmid
        exact ih (.inr hmid) hhigh (by omega) (by omega) fun h => by
          rw [h, Nat.add_sub_cancel] at hhigh
          exact ⟨by omega, .inr hmid, hhigh⟩
    · exact hnext (by omega)

/-- Between an integer in use and one that is not there is a border. -/
theorem searchInts_border {fuel low high : Nat} (hlow : t.hasInt low = true) (hhigh : t.hasInt high = false)
    (hlt : low < high) (hbound : high ≤ greatest) (hfuel : high - low ≤ 2 ^ fuel) :
    IsBorder (t.hasInt · = true) (searchInts t fuel low high) := by
  have hnext (low high : Nat) (hlow : t.hasInt low = true) (hhigh : t.hasInt high = false)
      (hbound : high ≤ greatest) (h : high = low + 1) : IsBorder (t.hasInt · = true) low :=
    ⟨by omega, .inr hlow, .inr (by rw [← h, hhigh]; exact Bool.false_ne_true)⟩
  induction fuel generalizing low high with
  | zero => exact hnext low high hlow hhigh hbound (by omega)
  | succ fuel ih =>
    rw [searchInts]
    split
    · dsimp only
      split
      · next hmid => exact ih hmid hhigh (by omega) hbound (by omega)
      · next hmid =>
        rw [Bool.not_eq_true] at hmid
        exact ih hlow hmid (by omega) (by omega) (by omega)
    · exact hnext low high hlow hhigh hbound (by omega)

/-- Above an integer in use there is a border, which is found before the doubling ends. -/
theorem searchAbove_border {fuel low : Nat} (hlow : t.hasInt low = true) (hpos : 0 < low) (hbound : low ≤ greatest)
    (hfuel : greatest < low * 2 ^ fuel) : IsBorder (t.hasInt · = true) (searchAbove t fuel low) := by
  have hgreatest : greatest ≤ 2 ^ 64 := by decide
  induction fuel generalizing low with
  | zero => omega
  | succ fuel ih =>
    rw [searchAbove]
    split
    · next hhalf =>
      split
      · next hhigh =>
        rw [Bool.not_eq_true'] at hhigh
        exact searchInts_border hlow hhigh (by omega) (by omega) (by omega)
      · next hhigh =>
        rw [Bool.not_eq_true', Bool.not_eq_false] at hhigh
        refine ih hhigh (by omega) (by omega) ?_
        rw [Nat.pow_succ] at hfuel
        rw [Nat.mul_comm 2 low, Nat.mul_assoc, Nat.mul_comm 2]
        exact hfuel
    · split
      · next hhigh =>
        rw [Bool.not_eq_true'] at hhigh
        have hne : low ≠ greatest := by
          rintro rfl
          rw [hlow] at hhigh
          cases hhigh
        exact searchInts_border hlow hhigh (by omega) (Nat.le_refl _) (by omega)
      · next hhigh =>
        rw [Bool.not_eq_true', Bool.not_eq_false] at hhigh
        exact ⟨Nat.le_refl _, .inr hhigh, .inl rfl⟩

/-! ## The border -/

/-- **The border** of a table is a border, whatever the table holds and wherever. -/
theorem border_isBorder (hlimit : t.limit ≤ t.items.size) (hsmall : t.items.size ≤ 2 ^ 32) :
    IsBorder (t.hasInt · = true) t.border.1 := by
  have hgreatest : 2 ^ 32 < greatest := by decide
  have hitem : ∀ i, 0 < i → i ≤ t.items.size → t.hasInt i = !(t.items.getD (i - 1) .nil).isNil := by
    intro i hi hle
    have hvalue := get_item hsmall (i := i - 1) (by omega)
    rw [Nat.sub_add_cancel hi] at hvalue
    rw [hasInt, hvalue]
  -- an item before a gap in the array part is a border
  have hinside {n : Nat} (hlt : n < t.items.size) (hstart : n = 0 ∨ (t.items.getD (n - 1) .nil).isNil = false)
      (hstop : (t.items.getD n .nil).isNil = true) : IsBorder (t.hasInt · = true) n := by
    refine ⟨by omega, ?_, .inr ?_⟩
    · rcases Nat.eq_zero_or_pos n with hzero | hpos
      · exact .inl hzero
      · refine .inr ?_
        rw [hitem n hpos (Nat.le_of_lt hlt), hstart.resolve_left (Nat.ne_of_gt hpos)]
        rfl
    · rw [hitem (n + 1) (Nat.succ_pos n) hlt, Nat.add_sub_cancel, hstop]
      exact Bool.false_ne_true
  have hsearch {low high : Nat} (hlow : low = 0 ∨ (t.items.getD (low - 1) .nil).isNil = false)
      (hhigh : (t.items.getD (high - 1) .nil).isNil = true) (hlt : low < high) (hle : high ≤ t.items.size) :
      IsBorder (t.hasInt · = true) (searchItems t.items 64 low high) := by
    have hfuel : high - low ≤ 2 ^ 64 := Nat.le_trans (show high - low ≤ 2 ^ 32 by omega) (by decide)
    obtain ⟨hbelow, hstart, hstop⟩ := searchItems_border hlow hhigh hlt hfuel
    exact hinside (by omega) hstart hstop
  -- the array part is full, and the border may be in the hash part
  have hhash (hfull : t.items.size = 0 ∨ (t.items.getD (t.items.size - 1) .nil).isNil = false) :
      IsBorder (t.hasInt · = true) (if decide (t.nodes.size = 0) || !t.hasInt (t.items.size + 1)
        then t.items.size else t.searchAbove 63 (max t.items.size 1)) := by
    have hlast : t.items.size = 0 ∨ t.hasInt t.items.size = true := by
      rcases Nat.eq_zero_or_pos t.items.size with hzero | hpos
      · exact .inl hzero
      · refine .inr ?_
        rw [hitem _ hpos (Nat.le_refl _), hfull.resolve_left (Nat.ne_of_gt hpos)]
        rfl
    split
    · next hend =>
      rw [Bool.or_eq_true, decide_eq_true_eq, Bool.not_eq_true'] at hend
      have hnone := hend.elim (not_hasInt hsmall) id
      exact ⟨by omega, hlast, .inr (by rw [hnone]; exact Bool.false_ne_true)⟩
    · next hmore =>
      rw [Bool.or_eq_true, not_or, Bool.not_eq_true', Bool.not_eq_false] at hmore
      have hlow : t.hasInt (max t.items.size 1) = true := by
        rcases Nat.eq_zero_or_pos t.items.size with hzero | hpos
        · rw [hzero] at hmore ⊢
          exact hmore.2
        · rw [Nat.max_eq_left hpos]
          exact hlast.resolve_left (Nat.ne_of_gt hpos)
      refine searchAbove_border hlow (by omega) (by omega) ?_
      calc greatest < 1 * 2 ^ 63 := by decide
        _ ≤ max t.items.size 1 * 2 ^ 63 := Nat.mul_le_mul_right _ (Nat.le_max_right _ _)
  unfold Table.border
  dsimp only
  split
  · next hend =>
    rw [Bool.and_eq_true, decide_eq_true_eq] at hend
    obtain ⟨hpos, hnil⟩ := hend
    split
    · next hlast =>
      rw [Bool.and_eq_true, decide_eq_true_eq, Bool.not_eq_true'] at hlast
      obtain ⟨htwo, hvalue⟩ := hlast
      dsimp only
      exact hinside (by omega) (.inr hvalue) hnil
    · exact hsearch (.inl rfl) hnil hpos hlimit
  · next hopen =>
    have hlow : t.limit = 0 ∨ (t.items.getD (t.limit - 1) .nil).isNil = false := by
      rw [Bool.and_eq_true, decide_eq_true_eq, not_and, Bool.not_eq_true] at hopen
      exact (Nat.eq_zero_or_pos t.limit).imp_right hopen
    split
    · next hhint =>
      have hlt : t.limit < t.items.size := Nat.lt_of_le_of_ne hlimit (bne_iff_ne.mp hhint)
      split
      · next hnil => exact hinside hlt hlow hnil
      · split
        · next hnil => exact hsearch hlow hnil hlt (Nat.le_refl _)
        · next hvalue => exact hhash (.inr (Bool.not_eq_true _ ▸ hvalue))
    · next hhint =>
      have heq : t.limit = t.items.size := by simpa using hhint
      rw [heq] at hlow ⊢
      exact hhash hlow

/-- In a table in order the integers in use are keys. -/
theorem Sound.border_isBorder (h : Sound t) : IsBorder (Val.ofNat · ∈ t.keys) t.border.1 := by
  have hborder := Table.border_isBorder (Nat.le_of_eq h.limit) h.small
  simpa only [h.hasInt_iff] using hborder

/-- The border of a table is the length of the sequence that it holds. -/
theorem Sound.border (h : Sound t) (hn : n < 2 ^ 62)
    (hkeys : ∀ i, 0 < i → i < 2 ^ 63 → (Val.ofNat i ∈ t.keys ↔ i ≤ n)) : t.border.1 = n := by
  have hgreatest : greatest + 1 = 2 ^ 63 := rfl
  exact h.border_isBorder.eq (by omega) fun i hpos hle => hkeys i hpos (by omega)

end ScriptHost.TableScript.Table
