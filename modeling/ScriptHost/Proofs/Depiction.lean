import Mathlib.Data.List.Forall2
import ScriptHost.Proofs.Indices
import ScriptHost.Proofs.Units
import ScriptHost.Proofs.Values
import ScriptHost.ProtoScript.Marshal

/-!
# Objects of a script that stand for a value

The host makes a value known to a script by objects of its own.  As long as these are left alone, the conversion for
the host gives the value back, or refuses it for its depth.

* `Value.Data` — values without functions.
* `Depicts` — a value of a script stands for a value of the host.
* `keys_record` — an object shows each of its keys once.
* `exportAt_depicts` — **what stands for a value reaches the host as that value, unless it is too deep**.
-/

namespace ScriptHost

namespace Value

/-! ## Values without functions -/

mutual

/-- Values made of data alone, with keys of a kind.  An array has fewer than 2^32 elements. -/
def Data (P : String → Prop) : Value → Prop
  | .array items => items.length < 4294967296 ∧ AllData P items
  | .object entries => Increasing entries ∧ EntriesData P entries
  | .function _ | .foreign _ => False
  | _ => True

def AllData (P : String → Prop) : List Value → Prop
  | [] => True
  | v :: rest => Data P v ∧ AllData P rest

def EntriesData (P : String → Prop) : List (String × Value) → Prop
  | [] => True
  | (k, v) :: rest => P k ∧ Data P v ∧ EntriesData P rest

end

theorem allData_iff {P : String → Prop} {vs : List Value} : AllData P vs ↔ ∀ v ∈ vs, Data P v := by
  induction vs with
  | nil => simp [AllData]
  | cons v rest ih => simp [AllData, ih]

theorem entriesData_iff {P : String → Prop} {entries : List (String × Value)} :
    EntriesData P entries ↔ ∀ e ∈ entries, P e.1 ∧ Data P e.2 := by
  induction entries with
  | nil => simp [EntriesData]
  | cons e rest ih => simp [EntriesData, ih, and_assoc]

mutual

theorem Data.mono {P Q : String → Prop} (h : ∀ k, P k → Q k) {v : Value} (hdata : v.Data P) : v.Data Q := by
  cases v with
  | undefined | null | bool b | number x | text s => trivial
  | function f => exact hdata.elim
  | foreign name => exact hdata.elim
  | array items => exact ⟨hdata.1, AllData.mono h hdata.2⟩
  | object entries => exact ⟨hdata.1, EntriesData.mono h hdata.2⟩

theorem AllData.mono {P Q : String → Prop} (h : ∀ k, P k → Q k) {vs : List Value} (hdata : AllData P vs) :
    AllData Q vs := by
  cases vs with
  | nil => trivial
  | cons v rest => exact ⟨Data.mono h hdata.1, AllData.mono h hdata.2⟩

theorem EntriesData.mono {P Q : String → Prop} (h : ∀ k, P k → Q k) {entries : List (String × Value)}
    (hdata : EntriesData P entries) : EntriesData Q entries := by
  cases entries with
  | nil => trivial
  | cons e rest => exact ⟨h _ hdata.1, Data.mono h hdata.2.1, EntriesData.mono h hdata.2.2⟩

end

end Value

namespace ProtoScript

open Script

/-! ## Objects as the host makes them -/

/-- An object with these properties. -/
def Obj.record (props : List (Key × Property)) : Obj where
  proto := some Intrinsic.objectProto.id
  props := props.toArray

/-- An array with these elements. -/
def Obj.row (ws : List Val) : Obj where
  proto := some Intrinsic.arrayProto.id
  kind := .array ws.length true
  elements := ws.toArray

mutual

/-- A value of a script stands for a tree, by objects that begin at a place of the heap. -/
inductive Depicts (heap : Array Obj) (start : Nat) : Val → Value → Prop
  | undefined : Depicts heap start .undefined .undefined
  | null : Depicts heap start .null .null
  | bool (b : Bool) : Depicts heap start (.bool b) (.bool b)
  | number (x : Float) : Depicts heap start (.num x) (.number x)
  | text (s : String) : Depicts heap start (.ofString s) (.text s)
  | array {id : Nat} {ws : List Val} {items : List Value} (hid : start ≤ id)
      (hcell : heap[id]? = some (.row ws)) (hitems : DepictsAll heap start ws items) :
      Depicts heap start (.obj id) (.array items)
  | object {id : Nat} {props : List (Key × Property)} {entries : List (String × Value)} (hid : start ≤ id)
      (hcell : heap[id]? = some (.record props)) (hentries : DepictsEntries heap start props entries) :
      Depicts heap start (.obj id) (.object entries)

/-- The elements of an array stand for items. -/
inductive DepictsAll (heap : Array Obj) (start : Nat) : List Val → List Value → Prop
  | nil : DepictsAll heap start [] []
  | cons {w : Val} {v : Value} {ws : List Val} {items : List Value} (hfirst : Depicts heap start w v)
      (hrest : DepictsAll heap start ws items) : DepictsAll heap start (w :: ws) (v :: items)

/-- The properties of an object stand for entries. -/
inductive DepictsEntries (heap : Array Obj) (start : Nat) : List (Key × Property) → List (String × Value) → Prop
  | nil : DepictsEntries heap start [] []
  | cons {k : String} {w : Val} {v : Value} {props : List (Key × Property)} {entries : List (String × Value)}
      (hfirst : Depicts heap start w v) (hrest : DepictsEntries heap start props entries) :
      DepictsEntries heap start ((.name k, .plain w) :: props) ((k, v) :: entries)

end

/-! ## What is left alone -/

section Frame

variable {heap heap' : Array Obj} {start start' : Nat}

mutual

/-- What stands for a tree still does if its objects are left alone. -/
theorem Depicts.frame {w : Val} {v : Value} (hstart : start' ≤ start)
    (hkept : ∀ i o, start ≤ i → heap[i]? = some o → heap'[i]? = some o) (h : Depicts heap start w v) :
    Depicts heap' start' w v := by
  cases h with
  | undefined => exact .undefined
  | null => exact .null
  | bool b => exact .bool b
  | number x => exact .number x
  | text s => exact .text s
  | array hid hcell hitems =>
    exact .array (Nat.le_trans hstart hid) (hkept _ _ hid hcell) (DepictsAll.frame hstart hkept hitems)
  | object hid hcell hentries =>
    exact .object (Nat.le_trans hstart hid) (hkept _ _ hid hcell) (DepictsEntries.frame hstart hkept hentries)

theorem DepictsAll.frame {ws : List Val} {items : List Value} (hstart : start' ≤ start)
    (hkept : ∀ i o, start ≤ i → heap[i]? = some o → heap'[i]? = some o) (h : DepictsAll heap start ws items) :
    DepictsAll heap' start' ws items := by
  cases h with
  | nil => exact .nil
  | cons hfirst hrest => exact .cons (Depicts.frame hstart hkept hfirst) (DepictsAll.frame hstart hkept hrest)

theorem DepictsEntries.frame {props : List (Key × Property)} {entries : List (String × Value)}
    (hstart : start' ≤ start) (hkept : ∀ i o, start ≤ i → heap[i]? = some o → heap'[i]? = some o)
    (h : DepictsEntries heap start props entries) : DepictsEntries heap' start' props entries := by
  cases h with
  | nil => exact .nil
  | cons hfirst hrest => exact .cons (Depicts.frame hstart hkept hfirst) (DepictsEntries.frame hstart hkept hrest)

end

end Frame

/-! ## Reading the objects -/

section Reading

variable {heap : Array Obj} {start : Nat}

theorem DepictsAll.length {ws : List Val} {items : List Value} (h : DepictsAll heap start ws items) :
    ws.length = items.length := by
  induction items generalizing ws with
  | nil => cases h; rfl
  | cons v items ih =>
    cases h with
    | cons _ hrest => rw [List.length_cons, List.length_cons, ih hrest]

theorem DepictsAll.get {ws : List Val} {items : List Value} (h : DepictsAll heap start ws items) {i : Nat}
    {v : Value} (hi : items[i]? = some v) :
    ∃ w, ws[i]? = some w ∧ Depicts heap start w v := by
  induction items generalizing ws i with
  | nil => simp at hi
  | cons a items ih =>
    cases h with
    | cons hfirst hrest =>
      cases i with
      | zero =>
        cases hi
        exact ⟨_, rfl, hfirst⟩
      | succ i => exact ih hrest hi

theorem DepictsEntries.keys {props : List (Key × Property)} {entries : List (String × Value)}
    (h : DepictsEntries heap start props entries) :
    props.map Prod.fst = entries.map fun e => .name e.1 := by
  induction entries generalizing props with
  | nil => cases h; rfl
  | cons e entries ih =>
    cases h with
    | cons _ hrest => rw [List.map_cons, List.map_cons, ih hrest]

theorem DepictsEntries.lookup {props : List (Key × Property)} {entries : List (String × Value)}
    (h : DepictsEntries heap start props entries) (hnodup : (entries.map Prod.fst).Nodup) {e : String × Value}
    (he : e ∈ entries) :
    ∃ w, props.lookup (.name e.1) = some (.plain w) ∧ Depicts heap start w e.2 := by
  induction entries generalizing props with
  | nil => simp at he
  | cons a entries ih =>
    obtain ⟨key, x⟩ := a
    rw [List.map_cons, List.nodup_cons] at hnodup
    cases h with
    | cons hfirst hrest =>
      rcases List.mem_cons.mp he with rfl | he
      · exact ⟨_, List.lookup_cons_self, hfirst⟩
      · have hne : Key.name e.1 ≠ .name key := fun heq =>
          hnodup.1 (List.mem_map.mpr ⟨e, he, Key.name.inj heq⟩)
        obtain ⟨w, hw, hdepicts⟩ := ih hrest hnodup.2 he
        refine ⟨w, ?_, hdepicts⟩
        rw [List.lookup_cons, beq_false_of_ne hne]
        exact hw

/-- A hole stands for nothing. -/
theorem Depicts.ne_empty {w : Val} {v : Value} (h : Depicts heap start w v) : w ≠ .empty := by
  rintro rfl
  cases h

end Reading

/-! ## Properties of such objects -/

theorem Obj.named?_eq_lookup (o : Obj) (k : Key) : o.named? k = o.props.toList.lookup k := by
  obtain ⟨proto, kind, ⟨props⟩, elements, extensible⟩ := o
  rw [Obj.named?, Obj.place?]
  simp only [List.findIdx?_toArray, List.getElem?_toArray]
  induction props with
  | nil => rfl
  | cons e props ih =>
    rw [List.findIdx?_cons, List.lookup_cons, Bool.beq_comm]
    cases hkey : k == e.1 with
    | true => rfl
    | false =>
      rw [← ih]
      simp only [Bool.false_eq_true, if_false]
      cases props.findIdx? fun e => e.1 == k <;> rfl

theorem Machine.obj_eq {m : Machine} {id : Nat} {o : Obj} (h : m.heap[id]? = some o) : m.obj id = o := by
  rw [Machine.obj, Array.getD_eq_getD_getElem?, h, Option.getD_some]

theorem ownProperty?_ordinary {m : Machine} {id : Nat} {o : Obj} (h : m.heap[id]? = some o)
    (hkind : o.kind = .ordinary) (k : Key) : m.ownProperty? id k = o.named? k := by
  rw [Machine.ownProperty?, Machine.obj_eq h]
  simp only [hkind]

section Record

variable {m : Machine} {id : Nat} {props : List (Key × Property)}

theorem named?_record (k : Key) : (Obj.record props).named? k = props.lookup k := Obj.named?_eq_lookup _ k

theorem ownProperty?_record (h : m.heap[id]? = some (.record props)) (k : Key) :
    m.ownProperty? id k = props.lookup k :=
  (ownProperty?_ordinary h rfl k).trans (named?_record k)

/-- The indices among keys, as keys again. -/
theorem ofNat_indices (ks : List Key) : (ks.filterMap Key.index?).map Key.ofNat = ks.filter fun k => k.index?.isSome := by
  induction ks with
  | nil => rfl
  | cons k ks ih =>
    cases hk : k.index? with
    | none => rw [List.filterMap_cons_none hk, ih, List.filter_cons_of_neg (by simp [hk])]
    | some i => rw [List.filterMap_cons_some hk, List.map_cons, ih, Key.ofNat_of_index? hk,
        List.filter_cons_of_pos (by simp [hk])]

/-- The names among keys are those that are no indices, if there are no symbols. -/
theorem filterMap_names {ks : List Key} (hnames : ∀ k ∈ ks, ∃ s, k = .name s) :
    (ks.filterMap fun k => match k with
      | .name s => if (indexOf? s).isSome then none else some k
      | .symbol _ => none) = ks.filter fun k => !k.index?.isSome := by
  induction ks with
  | nil => rfl
  | cons k ks ih =>
    obtain ⟨s, rfl⟩ := hnames k (by simp)
    have hrest := ih fun k hk => hnames k (by simp [hk])
    cases hs : indexOf? s with
    | none => rw [List.filterMap_cons_some (by simp [hs]; rfl), hrest, List.filter_cons_of_pos (by simp [Key.index?, hs])]
    | some i => rw [List.filterMap_cons_none (by simp [hs]), hrest, List.filter_cons_of_neg (by simp [Key.index?, hs])]

/-- The keys of an object with named properties are theirs, indices first. -/
theorem keys_record (hnames : ∀ k ∈ props.map Prod.fst, ∃ s, k = .name s) :
    (Obj.record props).keys.toList.Perm (props.map Prod.fst) := by
  have hsymbols : (props.filterMap fun e => match e.1 with
      | .name _ => none
      | .symbol _ => some e.1) = [] := by
    rw [List.filterMap_eq_nil_iff]
    intro e he
    obtain ⟨s, hs⟩ := hnames e.1 (List.mem_map_of_mem he)
    rw [hs]
  have hothers : (props.filterMap fun e => match e.1 with
      | .name s => if (indexOf? s).isSome then none else some e.1
      | .symbol _ => none) = (props.map Prod.fst).filter fun k => !k.index?.isSome := by
    rw [← filterMap_names hnames, List.filterMap_map]
    rfl
  have hsparse : (props.filterMap fun e => e.1.index?) = (props.map Prod.fst).filterMap Key.index? := by
    rw [List.filterMap_map]
    rfl
  have hindices : (if (props.toArray.filterMap fun e => e.1.index?).isEmpty then #[]
      else ((props.filterMap fun e => e.1.index?).mergeSort (· ≤ ·)).toArray).toList.Perm
        ((props.map Prod.fst).filterMap Key.index?) := by
    rw [← hsparse]
    split
    · next hempty =>
      rw [List.filterMap_toArray, List.isEmpty_toArray, List.isEmpty_iff] at hempty
      rw [hempty]
    · exact List.mergeSort_perm _ _
  have htext : (Obj.record props).wrappedText? = none := rfl
  have hdense : ((Array.range (Obj.record props).elements.size).filter
      fun i => ((Obj.record props).element? i).isSome) = #[] := rfl
  have hkind : (Obj.record props).kind = .ordinary := rfl
  have hprops : (Obj.record props).props = props.toArray := rfl
  unfold Obj.keys
  simp only [htext, hdense, hkind, hprops, Array.toList_append, Array.toList_map, Array.toList_filterMap,
    List.append_nil, Array.empty_append]
  refine (((hindices.map Key.ofNat).append (.of_eq hothers)).append (.of_eq hsymbols)).trans ?_
  rw [ofNat_indices, List.append_nil]
  exact List.filter_append_perm _ _

/-- An object that stands for entries shows their keys. -/
theorem ownNames_record {start : Nat} {entries : List (String × Value)} (hcell : m.heap[id]? = some (.record props))
    (hentries : DepictsEntries m.heap start props entries) (hnodup : (entries.map Prod.fst).Nodup) (calls : Calls) :
    ∃ names, ownNames id calls m = .ok names m ∧ names.toList.Perm (entries.map Prod.fst) := by
  refine ⟨_, rfl, ?_⟩
  have hkeys : (m.ownKeys id).toList.Perm (entries.map fun e => .name e.1) := by
    have hall : (entries.map fun e => Key.name e.1).filter (fun k => !m.isPrivateKey k)
        = entries.map fun e => Key.name e.1 := by
      rw [List.filter_eq_self]
      intro k hk
      obtain ⟨e, _, rfl⟩ := List.mem_map.mp hk
      rfl
    have hnames : ∀ k ∈ props.map Prod.fst, ∃ s, k = Key.name s := by
      intro k hk
      rw [hentries.keys] at hk
      obtain ⟨e, _, rfl⟩ := List.mem_map.mp hk
      exact ⟨e.1, rfl⟩
    rw [Machine.ownKeys, Machine.obj_eq hcell, Array.toList_filter, ← hall, ← hentries.keys]
    exact (keys_record hnames).filter _
  rw [Array.toList_filterMap]
  refine (hkeys.filterMap _).trans (.of_eq ?_)
  rw [List.filterMap_map, ← List.filterMap_eq_map]
  refine List.filterMap_congr fun e he => ?_
  obtain ⟨w, hw, _⟩ := hentries.lookup hnodup he
  simp only [Function.comp_apply, ownProperty?_record hcell, hw]
  rfl

end Record

/-- The elements of an array are its properties at the indices. -/
theorem ownProperty?_row {m : Machine} {id i : Nat} {ws : List Val} {w : Val} (hcell : m.heap[id]? = some (.row ws))
    (hi : ws[i]? = some w) (hw : w ≠ .empty) (hindex : i < 4294967295) :
    m.ownProperty? id (.ofNat i) = some (.plain w) := by
  have hstored : (Obj.row ws).elements[i]? = some w := by simpa [Obj.row] using hi
  have helement : (Obj.row ws).element? i = some w := by
    rw [Obj.element?, hstored]
    cases w <;> first | rfl | exact absurd rfl hw
  rw [Machine.ownProperty?, Machine.obj_eq hcell]
  simp only [Obj.row]
  split
  · next hlength => exact absurd hlength (Key.ofNat_ne_length hindex)
  · rw [Key.index?_ofNat hindex]
    dsimp only [Obj.row] at helement ⊢
    rw [helement]

/-! ## Conversion for the host -/

section Export

variable {m : Machine} {calls : Calls}

theorem bind_ok {α β : Type} {act : Script α} {next : α → Script β} {m' : Machine} {a : α}
    (h : act calls m = .ok a m') : (act >>= next) calls m = next a calls m' := by
  change EStateM.bind (act calls) (fun a => next a calls) m = _
  unfold EStateM.bind
  rw [h]

/-- A property that an object itself has is read without running anything. -/
theorem get_own {id : Nat} {k : Key} {w : Val} (h : m.ownProperty? id k = some (.plain w)) :
    get (.obj id) k calls m = .ok w m := by
  have hfound : m.property? id k = some (.plain w) := by rw [Machine.property?, Machine.findUp, h]
  change readSlot (m.property? id k) (.obj id) calls m = .ok w m
  rw [hfound]
  rfl

theorem readForHost_own {id : Nat} {k : Key} {w : Val} (h : m.ownProperty? id k = some (.plain w)) :
    readForHost (.obj id) k calls m = .ok (.ok w) m := by
  have hact : (do return .ok (← get (.obj id) k) : Script (Except String Val)) calls m = .ok (.ok w) m :=
    bind_ok (get_own h)
  change EStateM.tryCatch ((do return .ok (← get (.obj id) k) : Script (Except String Val)) calls) _ m = _
  unfold EStateM.tryCatch
  rw [hact]

/-- How a value reaches the host if there are as many levels left. -/
def told (left : Nat) (v : Value) : Except String Value :=
  if v.depth < left then .ok v else .error nestedTooDeeply

/-- How several values reach the host. -/
def toldAll (left : Nat) (vs : List Value) : Except String (List Value) :=
  if Value.levels vs ≤ left then .ok vs else .error nestedTooDeeply

/-- A property is read as what reaches the host as a value. -/
def ReadAs (m : Machine) (calls : Calls) (left : Nat) (v : Val) (k : Key) (x : Value) : Prop :=
  ∃ w, readForHost v k calls m = .ok (.ok w) m ∧ exportAt left w calls m = .ok (told left x) m

/-- Properties that are read as values reach the host together. -/
theorem exportKeys_eq {v : Val} {left : Nat} {ks : List Key} {vs : List Value}
    (h : List.Forall₂ (ReadAs m calls left v) ks vs) (done : List Value) :
    exportKeys (exportAt left) v ks done calls m = .ok ((toldAll left vs).map (done.reverse ++ ·)) m := by
  induction h generalizing done with
  | nil =>
    rw [exportKeys, toldAll, Value.levels, if_pos (Nat.zero_le _), Except.map, List.append_nil]
    rfl
  | @cons k x ks vs hfirst hrest ih =>
    obtain ⟨w, hread, hconvert⟩ := hfirst
    rw [exportKeys, bind_ok hread]
    simp only
    rw [bind_ok hconvert]
    have hlevels : Value.levels (x :: vs) ≤ left ↔ x.depth < left ∧ Value.levels vs ≤ left := Nat.max_le
    by_cases hdepth : x.depth < left
    · rw [told, if_pos hdepth]
      simp only
      rw [ih, toldAll, toldAll]
      by_cases hothers : Value.levels vs ≤ left
      · rw [if_pos hothers, if_pos (hlevels.mpr ⟨hdepth, hothers⟩)]
        simp [Except.map]
      · rw [if_neg hothers, if_neg fun h => hothers (hlevels.mp h).2]
        rfl
    · rw [told, if_neg hdepth, toldAll, if_neg fun h => hdepth (hlevels.mp h).1]
      rfl

/-- An array reaches the host by its elements. -/
theorem exportAt_row {id left : Nat} {ws : List Val} {items : List Value} (hcell : m.heap[id]? = some (.row ws))
    (h : List.Forall₂ (ReadAs m calls left (.obj id)) ((List.range ws.length).map Key.ofNat) items) :
    exportAt (left + 1) (.obj id) calls m = .ok (told (left + 1) (.array items)) m := by
  have hcallable : m.isCallable (.obj id) = false := by
    rw [Machine.isCallable, Machine.obj_eq hcell]
    rfl
  have hget : (MonadState.get : Script Machine) calls m = .ok m m := rfl
  rw [exportAt]
  simp only
  rw [bind_ok hget, hcallable, Machine.obj_eq hcell]
  refine (bind_ok (exportKeys_eq h [])).trans ?_
  simp only [told, toldAll, Value.depth, Nat.lt_succ_iff]
  split <;> rfl

/-- An object reaches the host by its properties, in whatever order these are read. -/
theorem exportAt_record {id left : Nat} {props : List (Key × Property)} {entries : List (String × Value)}
    {names : Array String} (hcell : m.heap[id]? = some (.record props)) (hnames : ownNames id calls m = .ok names m)
    (hperm : names.toList.Perm (entries.map Prod.fst)) (hincreasing : Value.Increasing entries)
    (h : ∀ e ∈ entries, ReadAs m calls left (.obj id) (.name e.1) e.2) :
    exportAt (left + 1) (.obj id) calls m = .ok (told (left + 1) (.object entries)) m := by
  have hcallable : m.isCallable (.obj id) = false := by
    rw [Machine.isCallable, Machine.obj_eq hcell]
    rfl
  have hget : (MonadState.get : Script Machine) calls m = .ok m m := rfl
  let found (n : String) : Value := (entries.lookup n).getD .undefined
  have hfound : ∀ e ∈ entries, found e.1 = e.2 := fun e he => by
    simp only [found, lookup_of_mem hincreasing.nodup he, Option.getD_some]
  have hread : List.Forall₂ (ReadAs m calls left (.obj id)) (names.toList.map Key.name) (names.toList.map found) := by
    rw [List.forall₂_map_left_iff, List.forall₂_map_right_iff, List.forall₂_same]
    intro n hn
    obtain ⟨e, he, rfl⟩ := List.mem_map.mp (hperm.mem_iff.mp hn)
    rw [hfound e he]
    exact h e he
  have hlevels : Value.levels (names.toList.map found) = Value.entryLevels entries := by
    rw [Value.entryLevels_eq, Value.levels_perm (hperm.map found), List.map_map]
    exact congrArg Value.levels (List.map_congr_left hfound)
  have hpairs : (names.toList.map fun n => (n, found n)).Perm entries := by
    have hself : entries.map ((fun n => (n, found n)) ∘ Prod.fst) = entries.map fun e => e :=
      List.map_congr_left fun e he => Prod.ext rfl (hfound e he)
    refine (hperm.map _).trans (.of_eq ?_)
    rw [List.map_map, hself, List.map_id']
  rw [exportAt]
  simp only
  rw [bind_ok hget, hcallable, Machine.obj_eq hcell]
  refine (bind_ok hnames).trans ((bind_ok (exportKeys_eq hread [])).trans ?_)
  simp only [told, toldAll, Value.depth, Nat.lt_succ_iff, hlevels]
  split
  · change EStateM.Result.ok (Except.ok (Value.ofEntries (names.toList.zip (names.toList.map found)))) m = _
    rw [← List.map_prod_left_eq_zip, Value.ofEntries_perm hincreasing hpairs]
  · rfl

/-- What stands for a value reaches the host as that value, unless it has too many levels. -/
theorem exportAt_depicts {start : Nat} {P : String → Prop} {w : Val} {v : Value} (h : Depicts m.heap start w v)
    (hdata : v.Data P) (left : Nat) : exportAt left w calls m = .ok (told left v) m := by
  induction left generalizing w v with
  | zero => rw [told, if_neg (Nat.not_lt_zero _)]; rfl
  | succ left ih =>
    cases h with
    | undefined | null | bool b | number x => rfl
    | text s =>
      change EStateM.Result.ok (exportUnits (Text.Units.ofString s)) m = _
      rw [exportUnits, Text.Units.strayOffset?_ofString, Text.Units.toString_ofString]
      rfl
    | array hid hcell hitems =>
      obtain ⟨hsize, hall⟩ := hdata
      have hlength := hitems.length
      refine exportAt_row hcell (List.forall₂_iff_get.mpr ⟨by simp [hlength], fun i hi hi' => ?_⟩)
      have hitem := List.getElem?_eq_getElem hi'
      obtain ⟨w, hw, hdepicts⟩ := hitems.get hitem
      have hown := ownProperty?_row hcell hw hdepicts.ne_empty (by omega)
      refine ⟨w, ?_, ih hdepicts (Value.allData_iff.mp hall _ (List.mem_of_getElem? hitem))⟩
      simpa using readForHost_own hown
    | object hid hcell hentries =>
      obtain ⟨hincreasing, hall⟩ := hdata
      obtain ⟨names, hnames, hperm⟩ := ownNames_record hcell hentries hincreasing.nodup calls
      refine exportAt_record hcell hnames hperm hincreasing fun e he => ?_
      obtain ⟨w, hw, hdepicts⟩ := hentries.lookup hincreasing.nodup he
      exact ⟨w, readForHost_own ((ownProperty?_record hcell _).trans hw),
        ih hdepicts (Value.entriesData_iff.mp hall e he).2⟩

end Export

end ProtoScript

end ScriptHost
