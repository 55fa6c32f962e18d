import ScriptHost.Proofs.Borders
import ScriptHost.Proofs.NormalForms
import ScriptHost.Proofs.WholeNumbers
import ScriptHost.TableScript.Run

/-!
# Values on their way through a table

The host makes a value known to a script by tables, and a table is read back as an array or an object by its keys
alone.  What comes back is the normal form of the value, whichever parts of the tables its entries went to.

* `exportAt_sequence`, `exportAt_record` — tables with the integers up to a length, and tables with texts as keys.
* `storeItems`, `importEntries_arrives` — the entries of the tables that arrays and objects become.
* `arrives_array`, `arrives_object`, `arrives` — a value becomes what carries its normal form, as long as the tables
  are kept.
* `normal_round_trip` — **what comes back is the normal form, and a normal form comes back as it is**.
-/

namespace ScriptHost.TableScript

open Script Table

/-! ## Numbers -/

/-- A number comes back as an equal one, and not-a-number as such. -/
theorem exportAt_importNumber (m : Machine) (levels : Nat) (x : Float) : ∃ y,
    m.exportAt (levels + 1) (importNumber x) = .ok (.number y) ∧
      ((y == x) = true ∨ y.isNaN = true ∧ x.isNaN = true) := by
  unfold importNumber
  cases hnan : x.isNaN with
  | true => exact ⟨Number.nan, rfl, .inr ⟨Number.nan_isNaN, rfl⟩⟩
  | false =>
    have hself : (x == x) = true := Number.float_beq_self hnan
    rw [if_neg Bool.false_ne_true]
    split
    · next i hwhole =>
      split
      · next hbound =>
        -- the bound is below 2^53, so the integer is the number itself
        have hlt : i.natAbs < 2 ^ 53 := Nat.lt_trans hbound (by decide)
        exact ⟨Number.ofInteger (.ofInt i), rfl, .inl (Number.ofInteger_beq hwhole hlt)⟩
      · exact ⟨x, rfl, .inl hself⟩
    · exact ⟨x, rfl, .inl hself⟩

theorem importNumber_isNil (x : Float) : (importNumber x).isNil = false := by
  unfold importNumber
  split
  · rfl
  split
  · split <;> rfl
  · rfl

/-! ## Numbered entries -/

section Numbered

variable {α β : Type}

/-- Values under the integers from a start on. -/
def numbered (start : Nat) (xs : List α) : List (Val × α) := (xs.zipIdx start).map fun e => (.ofNat e.2, e.1)

theorem numbered_cons (start : Nat) (x : α) (xs : List α) :
    numbered start (x :: xs) = (.ofNat start, x) :: numbered (start + 1) xs := rfl

theorem length_numbered (start : Nat) (xs : List α) : (numbered start xs).length = xs.length := by
  rw [numbered, List.length_map, List.length_zipIdx]

theorem map_numbered (f : α → β) (start : Nat) (xs : List α) :
    (numbered start xs).map (fun e => (e.1, f e.2)) = numbered start (xs.map f) := by
  induction xs generalizing start with
  | nil => rfl
  | cons x xs ih => rw [numbered_cons, List.map_cons, ih, List.map_cons, numbered_cons]

theorem mem_numbered {start : Nat} {xs : List α} {e : Val × α} :
    e ∈ numbered start xs ↔ ∃ i x, xs[i]? = some x ∧ e = (.ofNat (start + i), x) := by
  induction xs generalizing start with
  | nil => simp [numbered]
  | cons x xs ih =>
    rw [numbered_cons, List.mem_cons, ih]
    constructor
    · rintro (rfl | ⟨i, y, hy, rfl⟩)
      · exact ⟨0, x, rfl, rfl⟩
      · exact ⟨i + 1, y, hy, by rw [Nat.add_right_comm, Nat.add_assoc]⟩
    · rintro ⟨i, y, hy, rfl⟩
      cases i with
      | zero =>
        obtain rfl := Option.some.inj hy
        exact .inl rfl
      | succ i => exact .inr ⟨i, y, hy, by rw [Nat.add_right_comm, Nat.add_assoc]⟩

theorem keys_numbered (start : Nat) (xs : List α) :
    (numbered start xs).map Prod.fst = (List.range' start xs.length).map Val.ofNat := by
  induction xs generalizing start with
  | nil => rfl
  | cons x xs ih => rw [numbered_cons, List.map_cons, ih, List.length_cons, List.range'_succ, List.map_cons]

theorem mem_keys_numbered {start i : Nat} {xs : List α} (hi : i < 2 ^ 63) (hlimit : start + xs.length < 2 ^ 63) :
    Val.ofNat i ∈ (numbered start xs).map Prod.fst ↔ start ≤ i ∧ i < start + xs.length := by
  rw [keys_numbered, List.mem_map]
  constructor
  · rintro ⟨j, hj, heq⟩
    have hj := List.mem_range'_1.mp hj
    obtain rfl := ofNat_inj (by omega) hi heq
    exact hj
  · exact fun h => ⟨i, List.mem_range'_1.mpr h, rfl⟩

theorem nodup_map_ofNat {start n : Nat} (hlimit : start + n ≤ 2 ^ 63) :
    ((List.range' start n).map Val.ofNat).Nodup := by
  refine List.Nodup.map_on (fun i hi j hj heq => ?_) List.nodup_range'
  have hi := List.mem_range'_1.mp hi
  have hj := List.mem_range'_1.mp hj
  exact ofNat_inj (by omega) (by omega) heq

theorem nodup_numbered {start : Nat} {xs : List α} (hlimit : start + xs.length < 2 ^ 63) :
    ((numbered start xs).map Prod.fst).Nodup := by
  rw [keys_numbered]
  exact nodup_map_ofNat (Nat.le_of_lt hlimit)

end Numbered

/-! ## Tables read back -/

namespace Machine

variable {m : Machine} {id levels : Nat} {t : Table}

/-- What a value of a script comes back as, if it does. -/
def told (m : Machine) (levels : Nat) (w : Val) : Value :=
  match m.exportAt levels w with
  | .ok u => u
  | .error _ => .undefined

/-- A value of a script comes back. -/
def Tells (m : Machine) (levels : Nat) (w : Val) : Prop := ∃ u, m.exportAt levels w = .ok u

theorem Tells.eq {w : Val} (h : m.Tells levels w) : m.exportAt levels w = .ok (m.told levels w) := by
  obtain ⟨u, hu⟩ := h
  rw [told, hu]

theorem tells_agrees {w : Val} {u v : Value} (h : m.exportAt levels w = .ok u) (hagrees : u.Agrees v) :
    m.Tells levels w ∧ (m.told levels w).Agrees v := by
  have htold : m.told levels w = u := by rw [told, h]
  exact ⟨⟨u, h⟩, htold ▸ hagrees⟩

/-- A table comes back by its entries. -/
theorem exportAt_table (ht : m.tables[id]? = some t) (hall : ∀ e ∈ t.entries, m.Tells levels e.2) :
    m.exportAt (levels + 1) (.table id) = .ok (
      if isSequence t.entries t.border.1 then
        .array (inOrder (t.entries.map fun e => (e.1, m.told levels e.2)) t.border.1)
      else Value.ofEntries (t.entries.map fun e => (keyText e.1, m.told levels e.2))) := by
  have htable : m.tableAt id = t := by
    rw [tableAt, Array.getD_eq_getD_getElem?, ht]
    rfl
  have hvalues : ∀ entries : List (Val × Val), (∀ e ∈ entries, m.Tells levels e.2) →
      entries.mapM (fun e => m.exportAt levels e.2) = .ok (entries.map fun e => m.told levels e.2) := by
    intro entries hentries
    induction entries with
    | nil => rfl
    | cons e rest ih =>
      obtain ⟨he, hrest⟩ := List.forall_mem_cons.mp hentries
      rw [List.mapM_cons, he.eq, ih hrest]
      rfl
  have hzip : (t.entries.map (·.1)).zip (t.entries.map fun e => m.told levels e.2)
      = t.entries.map fun e => (e.1, m.told levels e.2) := List.zip_map'
  rw [exportAt, htable]
  simp only [hvalues _ hall]
  change (if isSequence t.entries t.border.1 then _ else _ : Except String Value) = _
  rw [hzip, List.map_map]
  split <;> rfl

end Machine

/-! ### Sequences -/

theorem fits_iff {n : Nat} (hn : n ≤ greatest) {k : Val} : fits n k = true ↔ ∃ i, 1 ≤ i ∧ i ≤ n ∧ k = .ofNat i := by
  have hgreatest : greatest + 1 = 2 ^ 63 := rfl
  constructor
  · intro h
    cases k with
    | int i =>
      simp only [fits, Bool.and_eq_true, decide_eq_true_eq] at h
      obtain ⟨hpos, hle⟩ := h
      rw [Int64.le_iff_toInt_le] at hpos
      have hone : (1 : Int64).toInt = 1 := by decide
      rw [hone] at hpos
      refine ⟨i.toInt.toNat, by omega, by omega, ?_⟩
      have hcast : ((i.toInt.toNat : Nat) : Int) = i.toInt := by omega
      rw [Val.ofNat, ← Int64.ofInt_eq_ofNat, hcast, Int64.ofInt_toInt]
    | _ => cases h
  · rintro ⟨i, hpos, hle, rfl⟩
    obtain ⟨j, rfl⟩ : ∃ j, i = j + 1 := ⟨i - 1, by omega⟩
    have hint : (Int64.ofNat (j + 1)).toInt = ((j + 1 : Nat) : Int) := Int64.toInt_ofNat_of_lt (by omega)
    dsimp only [fits, Val.ofNat]
    rw [hint, decide_eq_true (one_le_ofNat (by omega)), Bool.true_and, decide_eq_true_eq]
    omega

theorem isSequence_iff (entries : List (Val × Val)) (n : Nat) :
    isSequence entries n = true ↔ 0 < n ∧ entries.length = n ∧ ∀ k ∈ entries.map Prod.fst, fits n k = true := by
  rw [isSequence]
  simp only [Bool.and_eq_true, decide_eq_true_eq, beq_iff_eq, List.all_eq_true, and_assoc, List.forall_mem_map]
  refine and_congr_right fun _ => and_congr_right fun _ => forall₂_congr fun e _ => ?_
  obtain ⟨k, w⟩ := e
  cases k <;> rfl

section Sequence

variable {entries : List (Val × Value)} {xs : List Value}

/-- Puts the value of an entry at the place of its integer. -/
def putAt (acc : Array Value) (e : Val × Value) : Array Value :=
  match e.1 with
  | .int i => acc.setIfInBounds (i.toInt.toNat - 1) e.2
  | _ => acc

theorem inOrder_eq (entries : List (Val × Value)) (n : Nat) :
    inOrder entries n = (entries.foldl putAt (Array.replicate n .undefined)).toList := by
  unfold inOrder
  congr 2

/-- Each value is put at the place of its integer, whatever the order. -/
theorem foldl_putAt (acc : Array Value) (hsize : acc.size < 2 ^ 63)
    (hkeys : ∀ e ∈ entries, ∃ j < acc.size, e.1 = .ofNat (1 + j)) (hnodup : (entries.map Prod.fst).Nodup) :
    (entries.foldl putAt acc).size = acc.size ∧
      (∀ j v, j < acc.size → (Val.ofNat (1 + j), v) ∈ entries → (entries.foldl putAt acc)[j]? = some v) ∧
      ∀ j, j < acc.size → Val.ofNat (1 + j) ∉ entries.map Prod.fst →
        (entries.foldl putAt acc)[j]? = acc[j]? := by
  induction entries generalizing acc with
  | nil => exact ⟨rfl, fun j v _ hmem => absurd hmem List.not_mem_nil, fun j _ _ => rfl⟩
  | cons e rest ih =>
    obtain ⟨⟨i, hi, hkey⟩, hrest⟩ := List.forall_mem_cons.mp hkeys
    obtain ⟨k, v⟩ := e
    dsimp only at hkey
    subst hkey
    rw [List.map_cons, List.nodup_cons] at hnodup
    have hput : putAt acc (.ofNat (1 + i), v) = acc.setIfInBounds i v := by
      have hint : (Int64.ofNat (1 + i)).toInt = ((1 + i : Nat) : Int) := Int64.toInt_ofNat_of_lt (by omega)
      rw [putAt]
      dsimp only [Val.ofNat]
      rw [hint, Int.toNat_natCast, Nat.add_sub_cancel_left]
    have hset : (acc.setIfInBounds i v).size = acc.size := Array.size_setIfInBounds
    obtain ⟨hsame, hthere, hother⟩ := ih (acc.setIfInBounds i v) (hset ▸ hsize)
      (fun e he => hset.symm ▸ hrest e he) hnodup.2
    rw [hset] at hsame hthere hother
    rw [List.foldl_cons, hput]
    refine ⟨hsame, fun j w hj hmem => ?_, fun j hj hnot => ?_⟩
    · rcases List.mem_cons.mp hmem with heq | hmem
      · obtain ⟨hkey, rfl⟩ := Prod.mk.inj heq
        obtain rfl : j = i := by
          have heq := ofNat_inj (by omega) (by omega) hkey
          omega
        rw [hother j hj hnodup.1, Array.getElem?_setIfInBounds, if_pos rfl, if_pos hj]
      · exact hthere j w hj hmem
    · rw [List.map_cons, List.mem_cons, not_or] at hnot
      have hne : i ≠ j := fun heq => hnot.1 (by rw [heq])
      rw [hother j hj hnot.2, Array.getElem?_setIfInBounds, if_neg hne]

/-- The values of a sequence are put at the places of their integers. -/
theorem inOrder_getElem? {n : Nat} (hlimit : n < 2 ^ 63) (hkeys : ∀ e ∈ entries, ∃ j < n, e.1 = .ofNat (1 + j))
    (hnodup : (entries.map Prod.fst).Nodup) : (inOrder entries n).length = n ∧
      ∀ j v, j < n → (Val.ofNat (1 + j), v) ∈ entries → (inOrder entries n)[j]? = some v := by
  have hsize : (Array.replicate n Value.undefined).size = n := Array.size_replicate
  obtain ⟨hplaced, hthere, -⟩ := foldl_putAt (Array.replicate n .undefined) (hsize.symm ▸ hlimit)
    (fun e he => hsize.symm ▸ hkeys e he) hnodup
  rw [hsize] at hplaced hthere
  rw [inOrder_eq]
  exact ⟨hplaced, fun j v hj hmem => by rw [Array.getElem?_toList, hthere j v hj hmem]⟩

/-- Values under the integers from 1 on are put in order. -/
theorem inOrder_numbered (hperm : entries.Perm (numbered 1 xs)) (hlimit : xs.length < 2 ^ 62) :
    inOrder entries xs.length = xs := by
  have hkeys : ∀ e ∈ entries, ∃ j < xs.length, e.1 = .ofNat (1 + j) := by
    intro e he
    obtain ⟨j, x, hx, rfl⟩ := mem_numbered.mp (hperm.mem_iff.mp he)
    exact ⟨j, (List.getElem?_eq_some_iff.mp hx).1, rfl⟩
  obtain ⟨hplaced, hthere⟩ := inOrder_getElem? (by omega) hkeys
    ((hperm.map _).nodup_iff.mpr (nodup_numbered (by omega)))
  refine List.ext_getElem? fun j => ?_
  cases hx : xs[j]? with
  | some x =>
    have hj := (List.getElem?_eq_some_iff.mp hx).1
    exact hthere j x hj (hperm.mem_iff.mpr (mem_numbered.mpr ⟨j, x, hx, rfl⟩))
  | none =>
    rw [List.getElem?_eq_none_iff] at hx ⊢
    exact hplaced.symm ▸ hx

end Sequence

namespace Machine

variable {m : Machine} {id levels : Nat} {t : Table}

/-- A table with the integers up to a length comes back as an array. -/
theorem exportAt_sequence (ht : m.tables[id]? = some t) (hsound : t.Sound) {ws : List Val}
    (hperm : t.entries.Perm (numbered 1 ws)) (hne : ws ≠ []) (hlimit : ws.length < 2 ^ 62)
    (hall : ∀ w ∈ ws, m.Tells levels w) :
    m.exportAt (levels + 1) (.table id) = .ok (.array (ws.map (m.told levels))) := by
  have hborder : t.border.1 = ws.length := by
    refine hsound.border hlimit fun i hi hi' => ?_
    rw [keys, (hperm.map Prod.fst).mem_iff, mem_keys_numbered hi' (by omega)]
    omega
  have hsequence : isSequence t.entries ws.length = true := by
    have hgreatest : 2 ^ 62 ≤ greatest := by decide
    refine (isSequence_iff _ _).mpr
      ⟨List.length_pos_iff.mpr hne, hperm.length_eq.trans (length_numbered 1 ws), fun k hk => ?_⟩
    rw [(hperm.map Prod.fst).mem_iff, keys_numbered, List.mem_map] at hk
    obtain ⟨i, hi, rfl⟩ := hk
    have hi := List.mem_range'_1.mp hi
    exact (fits_iff (by omega)).mpr ⟨i, hi.1, by omega, rfl⟩
  have hvalues : ∀ e ∈ t.entries, m.Tells levels e.2 := by
    intro e he
    obtain ⟨j, w, hw, rfl⟩ := mem_numbered.mp (hperm.mem_iff.mp he)
    exact hall w (List.mem_of_getElem? hw)
  have hplaced : (t.entries.map fun e => (e.1, m.told levels e.2)).Perm (numbered 1 (ws.map (m.told levels))) := by
    rw [← map_numbered]
    exact hperm.map _
  have horder := inOrder_numbered hplaced (by rwa [List.length_map])
  rw [List.length_map] at horder
  rw [exportAt_table ht hvalues, hborder, if_pos hsequence, horder]

/-- A table with texts as keys comes back as an object. -/
theorem exportAt_record (ht : m.tables[id]? = some t) {es : List (String × Val)}
    (hperm : t.entries.Perm (es.map fun e => (.ofString e.1, e.2)))
    (hincreasing : es.Pairwise fun a b => a.1 < b.1) (hall : ∀ e ∈ es, m.Tells levels e.2) :
    m.exportAt (levels + 1) (.table id) = .ok (.object (es.map fun e => (e.1, m.told levels e.2))) := by
  have hsequence (n : Nat) : isSequence t.entries n = false := by
    cases hentries : t.entries with
    | nil => cases n <;> rfl
    | cons e rest =>
      have he : e ∈ es.map fun e => (Val.ofString e.1, e.2) := by
        rw [← hperm.mem_iff, hentries]
        exact List.mem_cons_self
      obtain ⟨f, -, rfl⟩ := List.mem_map.mp he
      rw [isSequence, List.all_cons]
      exact Bool.and_false _
  have hvalues : ∀ e ∈ t.entries, m.Tells levels e.2 := by
    intro e he
    obtain ⟨f, hf, rfl⟩ := List.mem_map.mp (hperm.mem_iff.mp he)
    exact hall f hf
  have hentries : (t.entries.map fun e => (keyText e.1, m.told levels e.2)).Perm
      (es.map fun e => (e.1, m.told levels e.2)) := by
    refine (hperm.map _).trans (.of_eq ?_)
    rw [List.map_map]
    refine List.map_congr_left fun e _ => ?_
    exact Prod.ext (Text.Bytes.toString_ofString e.1) rfl
  rw [exportAt_table ht hvalues, hsequence, if_neg Bool.false_ne_true,
    Value.ofEntries_perm (List.pairwise_map.mpr hincreasing) hentries]

end Machine

/-! ## Tables that the host makes -/

/-- One element more of an array. -/
def storeNext (p : Table × Nat) (w : Val) : Table × Nat := (p.1.store (.ofNat p.2) w, p.2 + 1)

/-- The elements of an array are stored under the integers. -/
theorem storeItems {t : Table} (ht : t.Sound) {ws : List Val} (hws : ∀ w ∈ ws, w.isNil = false) {start : Nat}
    (hlimit : start + ws.length < 2 ^ 63) (hnew : ∀ k ∈ (numbered start ws).map Prod.fst, k ∉ t.keys) :
    t.Gains (ws.foldl storeNext (t, start)).1 (numbered start ws) := by
  induction ws generalizing t start with
  | nil => exact ⟨ht, .refl _⟩
  | cons w ws ih =>
    obtain ⟨hw, hws⟩ := List.forall_mem_cons.mp hws
    rw [List.length_cons] at hlimit
    rw [numbered_cons, List.map_cons, List.forall_mem_cons] at hnew
    have hgains : t.Gains (t.store (.ofNat start) w) [(.ofNat start, w)] := ht.store trivial hnew.1 hw
    have hnew' : ∀ k ∈ (numbered (start + 1) ws).map Prod.fst, k ∉ (t.store (.ofNat start) w).keys := by
      intro k hk hmem
      rcases hgains.mem_keys.mp hmem with hself | hthere
      · obtain rfl := List.mem_singleton.mp hself
        have hle := ((mem_keys_numbered (by omega) (by omega)).mp hk).1
        omega
      · exact hnew.2 k hk hthere
    obtain ⟨hsound, hperm⟩ := ih hgains.sound hws (by omega) hnew'
    refine ⟨hsound, (hperm.trans (hgains.entries.append_left _)).trans ?_⟩
    exact List.perm_middle

/-! ## Values that arrive -/

namespace Machine

/-- All tables stay as they are, and there may be new ones. -/
def Keeps (m m' : Machine) : Prop :=
  ∀ (id : Nat) (t : Table), m.tables[id]? = some t → m'.tables[id]? = some t

theorem Keeps.refl (m : Machine) : m.Keeps m := fun _ _ h => h

theorem Keeps.trans {m m' m'' : Machine} (h : m.Keeps m') (h' : m'.Keeps m'') : m.Keeps m'' :=
  fun id t ht => h' id t (h id t ht)

/-- A value of a script stands for the normal form of a value, as long as all tables are kept. -/
structure Carries (m : Machine) (w : Val) (v : Value) : Prop where
  isNil : w.isNil = v.norm.isUndefined
  tells : ∀ m', m.Keeps m' → ∀ levels, v.depth < levels → m'.Tells levels w ∧ (m'.told levels w).Agrees v.norm

theorem Carries.mono {m m' : Machine} {w : Val} {v : Value} (h : m.Carries w v) (hk : m.Keeps m') :
    m'.Carries w v :=
  ⟨h.isNil, fun m'' hk' => h.tells m'' (hk.trans hk')⟩

/-- A value without parts comes back at once. -/
theorem Carries.leaf {m : Machine} {w : Val} {v : Value} (hnil : w.isNil = v.norm.isUndefined)
    (htells : ∀ m levels, ∃ u, Machine.exportAt m (levels + 1) w = .ok u ∧ u.Agrees v.norm) : m.Carries w v := by
  refine ⟨hnil, fun m' _ levels hlevels => ?_⟩
  obtain ⟨levels, rfl⟩ := Nat.exists_eq_add_one_of_ne_zero (Nat.ne_of_gt (Nat.zero_lt_of_lt hlevels))
  obtain ⟨u, hu, hagrees⟩ := htells m' levels
  exact tells_agrees hu hagrees

variable {m : Machine} {id : Nat} {t : Table}

/-- What carries some values comes back as what agrees with their normal forms. -/
theorem Carries.tells_all {m' : Machine} (hk : m.Keeps m') {ws : List Val} {vs : List Value}
    (h : List.Forall₂ m.Carries ws vs) {levels : Nat} (hdepth : Value.levels vs ≤ levels) :
    (∀ w ∈ ws, m'.Tells levels w) ∧ List.Forall₂ Value.Agrees (ws.map (m'.told levels)) (vs.map Value.norm) := by
  induction h with
  | nil => exact ⟨fun w hw => absurd hw List.not_mem_nil, .nil⟩
  | cons hfirst _ ih =>
    obtain ⟨hlt, hrest⟩ := Nat.max_le.mp hdepth
    obtain ⟨htells, hagrees⟩ := hfirst.tells m' hk levels hlt
    obtain ⟨hall, hothers⟩ := ih hrest
    exact ⟨List.forall_mem_cons.mpr ⟨htells, hall⟩, .cons hagrees hothers⟩

/-- A table with the elements of an array carries it. -/
theorem carries_array (ht : m.tables[id]? = some t) (hsound : t.Sound) {ws : List Val} {items : List Value}
    (hperm : t.entries.Perm (numbered 1 ws)) (hlimit : ws.length < 2 ^ 62)
    (hall : List.Forall₂ m.Carries ws items) : m.Carries (.table id) (.array items) := by
  refine ⟨?_, fun m' hk levels hlevels => ?_⟩
  · rw [Value.norm]
    split <;> rfl
  obtain ⟨levels, rfl⟩ := Nat.exists_eq_add_one_of_ne_zero (Nat.ne_of_gt (Nat.zero_lt_of_lt hlevels))
  obtain ⟨htells, hagrees⟩ := Carries.tells_all hk hall (Nat.le_of_lt_succ hlevels)
  rw [Value.norm, Value.normAll_eq]
  by_cases hempty : ws = []
  · -- without elements the table is one without keys
    subst hempty
    obtain rfl := List.forall₂_nil_left_iff.mp hall
    have hnone : t.entries.Perm (([] : List (String × Val)).map fun e => (Val.ofString e.1, e.2)) := hperm
    have hexport : m'.exportAt (levels + 1) (.table id) = .ok (.object []) :=
      exportAt_record (hk id t ht) hnone List.Pairwise.nil fun _ he => absurd he List.not_mem_nil
    exact tells_agrees hexport (.object rfl .nil)
  · have hitems : items ≠ [] := fun hnil => hempty (List.forall₂_nil_right_iff.mp (hnil ▸ hall))
    rw [if_neg (by simpa using hitems)]
    exact tells_agrees (exportAt_sequence (hk id t ht) hsound hperm hempty hlimit htells) (.array hagrees)

/-- A table with the entries of an object that last carries it. -/
theorem carries_object (ht : m.tables[id]? = some t) {es : List (String × Val)} {entries : List (String × Value)}
    (hperm : t.entries.Perm (es.map fun e => (.ofString e.1, e.2))) (hincreasing : Value.Increasing entries)
    (hkeys : es.map Prod.fst = (Value.lasting entries).map Prod.fst)
    (hall : List.Forall₂ m.Carries (es.map Prod.snd) ((Value.lasting entries).map Prod.snd)) :
    m.Carries (.table id) (.object entries) := by
  refine ⟨rfl, fun m' hk levels hlevels => ?_⟩
  obtain ⟨levels, rfl⟩ := Nat.exists_eq_add_one_of_ne_zero (Nat.ne_of_gt (Nat.zero_lt_of_lt hlevels))
  have hdepth : Value.levels ((Value.lasting entries).map Prod.snd) ≤ levels := by
    rw [Value.depth, Value.entryLevels_eq, Nat.lt_succ_iff, Value.levels_le_iff] at hlevels
    refine Value.levels_le_iff.mpr fun v hv => hlevels v ?_
    obtain ⟨e, he, rfl⟩ := List.mem_map.mp hv
    exact List.mem_map_of_mem (Value.mem_lasting.mp he).1
  obtain ⟨htells, hagrees⟩ := Carries.tells_all hk hall hdepth
  have hsorted : es.Pairwise fun a b => a.1 < b.1 :=
    List.pairwise_map.mp (hkeys ▸ List.pairwise_map.mpr hincreasing.lasting)
  have hvalues : ∀ e ∈ es, m'.Tells levels e.2 := fun e he => htells e.2 (List.mem_map_of_mem he)
  rw [Value.norm, Value.normEntries_eq]
  refine tells_agrees (exportAt_record (hk id t ht) hperm hsorted hvalues) (.object ?_ ?_)
  · rw [List.map_map, List.map_map]
    exact hkeys
  · rw [List.map_map, List.map_map] at *
    exact hagrees

end Machine

section Import

variable {calls : Calls} {v : Value}

theorem bind_ok {α β : Type} {act : Script α} {next : α → Script β} {m m' : Machine} {a : α}
    (h : act calls m = .ok a m') : (act >>= next) calls m = next a calls m' := by
  change EStateM.bind (act calls) (fun a => next a calls) m = _
  unfold EStateM.bind
  rw [h]

theorem newTable_eq (t : Table) (calls : Calls) (m : Machine) :
    ∃ m', newTable t calls m = .ok (.table m.tables.size) m' ∧ m.Keeps m' ∧ m'.tables[m.tables.size]? = some t := by
  refine ⟨{ m with tables := m.tables.push t }, rfl, fun id u hu => ?_, Array.getElem?_push_size⟩
  obtain ⟨hlt, hu⟩ := Array.getElem?_eq_some_iff.mp hu
  rw [Array.getElem?_push_lt hlt, hu]

theorem ofString_inj {s s' : String} (h : Val.ofString s = .ofString s') : s = s' := by
  have htext := congrArg Text.Bytes.toString (Val.str.inj h)
  rwa [Text.Bytes.toString_ofString, Text.Bytes.toString_ofString] at htext

/-- The value becomes one that carries it. -/
def Arrives (calls : Calls) (v : Value) : Prop :=
  ∀ m, ∃ w m', importVal v calls m = .ok w m' ∧ m.Keeps m' ∧ m'.Carries w v

theorem importItems_arrives {items : List Value} (h : ∀ v ∈ items, Arrives calls v) (m : Machine) :
    ∃ ws m', importItems items calls m = .ok ws m' ∧ m.Keeps m' ∧ List.Forall₂ m'.Carries ws items := by
  induction items generalizing m with
  | nil => exact ⟨[], m, rfl, .refl m, .nil⟩
  | cons v rest ih =>
    obtain ⟨hv, hrest⟩ := List.forall_mem_cons.mp h
    obtain ⟨w, m₁, hfirst, hkept, hcarries⟩ := hv m
    obtain ⟨ws, m₂, hothers, hkept', hall⟩ := ih hrest m₁
    refine ⟨w :: ws, m₂, ?_, hkept.trans hkept', .cons (hcarries.mono hkept') hall⟩
    rw [importItems, bind_ok hfirst, bind_ok hothers]
    rfl

/-- The entries of an object are stored under their texts, but for those that have no value. -/
theorem importEntries_arrives {entries : List (String × Value)} (h : ∀ e ∈ entries, Arrives calls e.2)
    (hnodup : (entries.map Prod.fst).Nodup) {t : Table} (ht : t.Sound)
    (hnew : ∀ e ∈ entries, Val.ofString e.1 ∉ t.keys) (m : Machine) :
    ∃ (es : List (String × Val)) (t' : Table) (m' : Machine),
      importEntries entries t calls m = .ok t' m' ∧ m.Keeps m' ∧ t.Gains t' (es.map fun e => (.ofString e.1, e.2)) ∧
      es.map Prod.fst = (Value.lasting entries).map Prod.fst ∧
      List.Forall₂ m'.Carries (es.map Prod.snd) ((Value.lasting entries).map Prod.snd) := by
  induction entries generalizing t m with
  | nil => exact ⟨[], t, m, rfl, .refl m, ⟨ht, .refl _⟩, rfl, .nil⟩
  | cons e rest ih =>
    obtain ⟨k, v⟩ := e
    obtain ⟨hv, hrest⟩ := List.forall_mem_cons.mp h
    obtain ⟨hkey, hnew⟩ := List.forall_mem_cons.mp hnew
    rw [List.map_cons, List.nodup_cons] at hnodup
    obtain ⟨w, m₁, hfirst, hkept, hcarries⟩ := hv m
    have hrun (t' : Table) (m' : Machine) (hothers : importEntries rest (t.storeText k w) calls m₁ = .ok t' m') :
        importEntries ((k, v) :: rest) t calls m = .ok t' m' := by
      rw [importEntries, bind_ok hfirst]
      exact hothers
    have hplain : (Val.ofString k).IsPlain := trivial
    cases hnil : w.isNil with
    | true =>
      -- there is nothing to store, and the entry does not last
      have hstay : t.storeText k w = t := by
        have hw : w = .nil := by
          revert hnil
          cases w <;> simp [Val.isNil]
        rw [hw]
        exact ht.store_nil hplain hkey
      obtain ⟨es, t', m₂, hothers, hkept', hgains, hkeys, hall⟩ := ih hrest hnodup.2 ht hnew m₁
      have hgone : (Value.norm v).isUndefined = true := hcarries.isNil ▸ hnil
      have hlasting : Value.lasting ((k, v) :: rest) = Value.lasting rest :=
        List.filter_cons_of_neg (by simp [hgone])
      rw [hlasting]
      exact ⟨es, t', m₂, hrun t' m₂ (hstay.symm ▸ hothers), hkept.trans hkept', hgains, hkeys, hall⟩
    | false =>
      have hfirst' : t.Gains (t.storeText k w) [(.ofString k, w)] := ht.store hplain hkey hnil
      have hnew' : ∀ e ∈ rest, Val.ofString e.1 ∉ (t.storeText k w).keys := by
        intro e he hmem
        rcases hfirst'.mem_keys.mp hmem with hself | hthere
        · have hsame := ofString_inj (List.mem_singleton.mp hself)
          exact hnodup.1 (List.mem_map.mpr ⟨e, he, hsame⟩)
        · exact hnew e he hthere
      obtain ⟨es, t', m₂, hothers, hkept', ⟨hsound, hperm⟩, hkeys, hall⟩ :=
        ih hrest hnodup.2 hfirst'.sound hnew' m₁
      have hlasts : (Value.norm v).isUndefined = false := hcarries.isNil ▸ hnil
      have hlasting : Value.lasting ((k, v) :: rest) = (k, v) :: Value.lasting rest :=
        List.filter_cons_of_pos (by simp [hlasts])
      rw [hlasting]
      refine ⟨(k, w) :: es, t', m₂, hrun t' m₂ hothers, hkept.trans hkept', ⟨hsound, ?_⟩, ?_, ?_⟩
      · exact (hperm.trans (hfirst'.entries.append_left _)).trans List.perm_middle
      · rw [List.map_cons, List.map_cons, hkeys]
      · exact .cons (hcarries.mono hkept') hall

/-- An array arrives with its elements, if none of them leaves a gap. -/
theorem arrives_array {items : List Value} (h : ∀ v ∈ items, Arrives calls v) (hlength : items.length < 2 ^ 62)
    (hdefined : ∀ v ∈ items, v.norm ≠ .undefined) : Arrives calls (.array items) := by
  intro m
  obtain ⟨ws, m₁, hitems, hkept, hall⟩ := importItems_arrives h m
  have hlimit : ws.length < 2 ^ 62 := hall.length_eq ▸ hlength
  have hvalues : ∀ w ∈ ws, w.isNil = false := by
    intro w hw
    obtain ⟨v, hv, hcarries⟩ := Value.exists_of_forall₂ hall hw
    rw [hcarries.isNil, ← Bool.not_eq_true, Value.isUndefined_iff]
    exact hdefined v hv
  have hgains : Gains {} (ws.foldl storeNext ({}, 1)).1 (numbered 1 ws) :=
    storeItems .empty hvalues (by omega) fun _ _ => List.not_mem_nil
  obtain ⟨m₂, hnew, hkept', htable⟩ := newTable_eq (ws.foldl storeNext ({}, 1)).1 calls m₁
  refine ⟨.table m₁.tables.size, m₂, ?_, hkept.trans hkept', ?_⟩
  · rw [importVal, bind_ok hitems]
    exact hnew
  · exact Machine.carries_array htable hgains.sound hgains.of_empty hlimit (hall.imp fun _ _ h => h.mono hkept')

/-- An object arrives with its entries. -/
theorem arrives_object {entries : List (String × Value)} (h : ∀ e ∈ entries, Arrives calls e.2)
    (hincreasing : Value.Increasing entries) : Arrives calls (.object entries) := by
  intro m
  obtain ⟨es, t, m₁, hentries, hkept, hgains, hkeys, hall⟩ :=
    importEntries_arrives h hincreasing.nodup .empty (fun _ _ => List.not_mem_nil) m
  obtain ⟨m₂, hnew, hkept', htable⟩ := newTable_eq t calls m₁
  refine ⟨.table m₁.tables.size, m₂, ?_, hkept.trans hkept', ?_⟩
  · rw [importVal, bind_ok hentries]
    exact hnew
  · exact Machine.carries_object htable hgains.of_empty hincreasing hkeys (hall.imp fun _ _ h => h.mono hkept')

/-- **A value arrives**, if it leaves no gaps in an array. -/
theorem arrives (calls : Calls) {v : Value} (hformed : v.WellFormed) (hgapless : v.Gapless) : Arrives calls v := by
  induction v using Value.tree_induction with
  | undefined => exact fun m => ⟨_, m, rfl, .refl m, .leaf rfl fun _ _ => ⟨_, rfl, .undefined⟩⟩
  | null => exact fun m => ⟨_, m, rfl, .refl m, .leaf rfl fun _ _ => ⟨_, rfl, .undefined⟩⟩
  | foreign name => exact fun m => ⟨_, m, rfl, .refl m, .leaf rfl fun _ _ => ⟨_, rfl, .undefined⟩⟩
  | bool b => exact fun m => ⟨_, m, rfl, .refl m, .leaf rfl fun _ _ => ⟨_, rfl, .bool b⟩⟩
  | number x =>
    refine fun m => ⟨_, m, rfl, .refl m, .leaf (importNumber_isNil x) fun m levels => ?_⟩
    obtain ⟨y, hy, hsame⟩ := exportAt_importNumber m levels x
    exact ⟨_, hy, .number hsame⟩
  | text s =>
    refine fun m => ⟨_, m, rfl, .refl m, .leaf rfl fun m levels => ⟨.text s, ?_, .text s⟩⟩
    exact congrArg (fun s => Except.ok (Value.text s)) (Text.Bytes.toString_ofString s)
  | function f =>
    intro m
    refine ⟨_, { m with functions := m.functions.push (.host f) }, rfl, fun _ _ ht => ht, ?_⟩
    exact .leaf rfl fun _ _ => ⟨_, rfl, .foreign "function"⟩
  | array items ih =>
    obtain ⟨hlength, hformed⟩ := Value.wellFormed_array.mp hformed
    obtain ⟨hdefined, hgapless⟩ := Value.gapless_array.mp hgapless
    exact arrives_array (fun v hv => ih v hv (hformed v hv) (hgapless v hv)) hlength hdefined
  | object entries ih =>
    obtain ⟨hincreasing, hformed⟩ := Value.wellFormed_object.mp hformed
    have hgapless := Value.gapless_object.mp hgapless
    exact arrives_object (fun e he => ih e he (hformed e he) (hgapless e he)) hincreasing

end Import

/-! ## There and back -/

/-- A value becomes one of a script, and is read back at once. -/
def thereAndBack (v : Value) : Script (Except String Value) := do
  let w ← importVal v
  return (← MonadState.get).exportVal w

variable {v : Value}

/-- What comes back is the normal form. -/
theorem thereAndBack_agrees (hformed : v.WellFormed) (hgapless : v.Gapless) (hdepth : v.depth ≤ exportDepth)
    (calls : Calls) (m : Machine) : ∃ u m₁, thereAndBack v calls m = .ok (.ok u) m₁ ∧ u.Agrees v.norm := by
  obtain ⟨w, m₁, himport, -, hcarries⟩ := arrives calls hformed hgapless m
  obtain ⟨htells, hagrees⟩ := hcarries.tells m₁ (.refl m₁) (exportDepth + 1) (Nat.lt_succ_of_le hdepth)
  refine ⟨m₁.told (exportDepth + 1) w, m₁, ?_, hagrees⟩
  rw [thereAndBack, bind_ok himport, ← htells.eq]
  rfl

/-- **What comes back is the normal form**, and without functions a second way there and back changes nothing. -/
theorem normal_round_trip (hformed : v.WellFormed) (hgapless : v.Gapless) (hdepth : v.depth ≤ 64) (calls : Calls)
    (m : Machine) :
    ∃ u m₁, thereAndBack v calls m = .ok (.ok u) m₁ ∧ u.Agrees v.norm ∧
      (v.FunctionFree → ∀ later m₂, ∃ u' m₃, thereAndBack u later m₂ = .ok (.ok u') m₃ ∧ u'.Agrees u) := by
  obtain ⟨u, m₁, htrip, hagrees⟩ := thereAndBack_agrees hformed hgapless hdepth calls m
  refine ⟨u, m₁, htrip, hagrees, fun hfree later m₂ => ?_⟩
  have hsettled := hagrees.settled hformed hgapless hfree
  have hdepth' := Nat.le_trans hagrees.depth_le hdepth
  obtain ⟨u', m₃, htrip', hagrees'⟩ := thereAndBack_agrees hsettled.wellFormed hsettled.gapless hdepth' later m₂
  rw [hsettled.norm_eq] at hagrees'
  exact ⟨u', m₃, htrip', hagrees'⟩

/-- An object with a key of every kind: its entry without a value is gone, and its empty array is an empty object. -/
theorem normal_round_trip_mixed : ∃ u m₁,
    thereAndBack (.object [("", .array [.number 0.5, .array []]), ("1", .null), ("é", .text "ü")]) Calls.none {}
        = .ok (.ok u) m₁ ∧
      u.Agrees (.object [("", .array [.number 0.5, .object []]), ("é", .text "ü")]) ∧
      ∃ u' m₃, thereAndBack u Calls.none m₁ = .ok (.ok u') m₃ ∧ u'.Agrees u := by
  have hhalf : (Value.number 0.5).isLeaf = true := rfl
  have hnull : Value.null.isLeaf = true := rfl
  have htext : (Value.text "ü").isLeaf = true := rfl
  have hformed : (Value.object [("", .array [.number 0.5, .array []]), ("1", .null), ("é", .text "ü")]).WellFormed := by
    have hkeys : ["", "1", "é"].Pairwise fun a b => a < b := by decide
    refine Value.wellFormed_object.mpr ⟨List.pairwise_map.mp hkeys, ?_⟩
    simp [Value.wellFormed_array, Value.wellFormed_leaf, hhalf, hnull, htext]
  have hgapless : (Value.object [("", .array [.number 0.5, .array []]), ("1", .null), ("é", .text "ü")]).Gapless := by
    simp [Value.gapless_object, Value.gapless_array, Value.gapless_leaf, Value.norm, hhalf, hnull, htext]
  have hfree : (Value.object [("", .array [.number 0.5, .array []]), ("1", .null), ("é", .text "ü")]).FunctionFree := by
    simp [Value.FunctionFree, Value.throughout_object, Value.throughout_array, Value.throughout_leaf, hhalf, hnull,
      htext]
  obtain ⟨u, m₁, htrip, hagrees, hagain⟩ := normal_round_trip hformed hgapless (by decide) Calls.none {}
  exact ⟨u, m₁, htrip, hagrees, hagain hfree Calls.none m₁⟩

end ScriptHost.TableScript
