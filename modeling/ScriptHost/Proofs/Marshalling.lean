import ScriptHost.Proofs.Installation
import ScriptHost.ProtoScript.Interpreter

/-!
# Values on their way through a script

The host makes a value known to a script by new objects, whose properties it assigns one after the other.  An
assignment looks at what the object inherits: where that admits the names, each value of data gets objects that
stand for it, and they are read back as that value.  One name is not admitted: assigned to, it changes what an
object inherits.

* `Machine.Extends` — the heap has grown, and all old objects but some are as they were.
* `put_new` — assignment to a name that is received adds a property.
* `importVal_data` — data become objects that stand for them.
* `exportVal_importVal` — **there and back, with any changes of other objects in between**.
* `global_bind` — a value bound to a new global name is read back.
* `standard_initial`, `global_bind_standard` — before any text has run, all names but the one are received.
-/

namespace ScriptHost.ProtoScript

open Script

/-! ## A heap that grows -/

/-- A machine has come to another by changes of the heap that leave all objects alone but some. -/
structure Machine.Extends (changed : List Nat) (m m' : Machine) : Prop where
  others : m' = { m with heap := m'.heap }
  size : m.heap.size ≤ m'.heap.size
  cells : ∀ i o, i ∉ changed → m.heap[i]? = some o → m'.heap[i]? = some o

theorem lt_size_of_cell {m : Machine} {id : Nat} {o : Obj} (h : m.heap[id]? = some o) : id < m.heap.size :=
  (Array.getElem?_eq_some_iff.mp h).1

namespace Machine.Extends

variable {changed : List Nat} {m m' m'' : Machine}

theorem refl (m : Machine) : Extends changed m m := ⟨rfl, Nat.le_refl _, fun _ _ _ h => h⟩

theorem trans (h : Extends changed m m') (h' : Extends changed m' m'') : Extends changed m m'' where
  others := by rw [h'.others, h.others]
  size := Nat.le_trans h.size h'.size
  cells i o hi hcell := h'.cells i o hi (h.cells i o hi hcell)

theorem mono (h : Extends [] m m') : Extends changed m m' :=
  ⟨h.others, h.size, fun i o _ hcell => h.cells i o List.not_mem_nil hcell⟩

/-- Changes of a new object are no changes of old ones. -/
theorem trans_new {id : Nat} (h : Extends [] m m') (hid : m.heap.size ≤ id) (h' : Extends [id] m' m'') :
    Extends [] m m'' where
  others := by rw [h'.others, h.others]
  size := Nat.le_trans h.size h'.size
  cells i o hi hcell := by
    refine h'.cells i o ?_ (h.cells i o hi hcell)
    have hlt := lt_size_of_cell hcell
    simp only [List.mem_singleton]
    omega

end Machine.Extends
/-- A new object. -/
theorem alloc_eq (o : Obj) (calls : Calls) (m : Machine) :
    ∃ m', alloc o calls m = .ok m.heap.size m' ∧ m.Extends [] m' ∧ m'.heap[m.heap.size]? = some o := by
  refine ⟨{ m with heap := m.heap.push o }, rfl, ⟨rfl, ?_, ?_⟩, ?_⟩
  · rw [Array.size_push]
    exact Nat.le_succ _
  · intro i o' _ hcell
    obtain ⟨hi, ho⟩ := Array.getElem?_eq_some_iff.mp hcell
    simpa only [Array.getElem?_push_lt hi] using congrArg some ho
  · exact Array.getElem?_push_size

/-! ## Assignment to a new property -/

/-- The object that all plain objects inherit from. -/
structure Machine.Rooted (m : Machine) (root : Obj) : Prop where
  cell : m.heap[Intrinsic.objectProto.id]? = some root
  ordinary : root.kind = .ordinary
  top : root.proto = none

/-- Objects below this one can be given a property of this name: it has none, or one that can be written. -/
def Obj.Receives (root : Obj) (name : String) : Prop :=
  ∀ p, root.named? (.name name) = some p → ∃ x, p.slot = .value x true

theorem Machine.Rooted.extends {m m' : Machine} {root : Obj} {changed : List Nat} (h : m.Rooted root)
    (hm : m.Extends changed m') (hchanged : Intrinsic.objectProto.id ∉ changed) : m'.Rooted root :=
  ⟨hm.cells _ _ hchanged h.cell, h.ordinary, h.top⟩

theorem Machine.Rooted.not_record {m : Machine} {root : Obj} (h : m.Rooted root) {id : Nat}
    {props : List (Key × Property)} (hcell : m.heap[id]? = some (.record props)) :
    Intrinsic.objectProto.id ∉ [id] := by
  rw [List.mem_singleton]
  rintro rfl
  have hsame : root = .record props := Option.some.inj (h.cell.symm.trans hcell)
  have htop := h.top
  rw [hsame] at htop
  cases htop

theorem property?_root {m : Machine} {root : Obj} (h : m.Rooted root) (k : Key) :
    m.property? Intrinsic.objectProto.id k = root.named? k := by
  rw [Machine.property?, Machine.findUp, ownProperty?_ordinary h.cell h.ordinary, Machine.obj_eq h.cell, h.top]
  cases root.named? k <;> rfl

/-- An ordinary object directly below the root, to which properties can be added. -/
structure Obj.Open (o : Obj) : Prop where
  ordinary : o.kind = .ordinary
  below : o.proto = some Intrinsic.objectProto.id
  extensible : o.extensible = true

theorem Obj.open_record (props : List (Key × Property)) : (Obj.record props).Open := ⟨rfl, rfl, rfl⟩

theorem Obj.record_push (props : List (Key × Property)) (e : Key × Property) :
    { Obj.record props with props := (Obj.record props).props.push e } = .record (props ++ [e]) := by
  simp [Obj.record]

/-- A new name is added at the end. -/
theorem Obj.store_new {o : Obj} (hopen : o.Open) {k : Key} (h : o.named? k = none) (p : Property) :
    o.store k p = { o with props := o.props.push (k, p) } := by
  have hplace : o.place? k = none := by
    rw [Obj.named?_eq_lookup, List.lookup_eq_none_iff] at h
    rw [Obj.place?, Array.findIdx?_eq_none_iff]
    intro e he
    rw [Bool.beq_comm]
    simpa using h e he.val
  have helements : o.hasElements = false := by rw [Obj.hasElements, hopen.ordinary]
  rw [Obj.store, helements, Obj.setNamed, hplace]
  rfl

theorem define_new {m : Machine} {id : Nat} {o : Obj} (hcell : m.heap[id]? = some o) (hopen : o.Open) {k : Key}
    (hnew : o.named? k = none) (p : Property) (calls : Calls) :
    ∃ m', define id k p calls m = .ok () m' ∧ m.Extends [id] m'
      ∧ m'.heap[id]? = some { o with props := o.props.push (k, p) } := by
  refine ⟨{ m with heap := m.heap.modify id fun o => o.store k p }, rfl, ⟨rfl, ?_, ?_⟩, ?_⟩
  · exact Nat.le_of_eq Array.size_modify.symm
  · intro i o hi ho
    rw [Array.getElem?_modify, if_neg fun heq => hi (by simp [heq])]
    exact ho
  · rw [Array.getElem?_modify, if_pos rfl, hcell, Option.map_some, Obj.store_new hopen hnew]

/-- Assignment to a name that is received adds a property. -/
theorem put_new {root : Obj} {m : Machine} (hroot : m.Rooted root) {id : Nat} {o : Obj} (hcell : m.heap[id]? = some o)
    (hopen : o.Open) {name : String} (hname : root.Receives name) (hnew : o.named? (.name name) = none) (w : Val)
    (calls : Calls) :
    ∃ m', put (.obj id) (.name name) w true calls m = .ok () m' ∧ m.Extends [id] m'
      ∧ m'.heap[id]? = some { o with props := o.props.push (.name name, .plain w) } := by
  have hadd : addProperty id (.name name) w true calls m = define id (.name name) (.plain w) calls m := by
    have hobj : obj id calls m = .ok o m := by
      rw [← Machine.obj_eq hcell]
      rfl
    rw [addProperty, bind_ok hobj, hopen.extensible, hopen.ordinary]
    rfl
  have hput : put (.obj id) (.name name) w true calls m = addProperty id (.name name) w true calls m := by
    have hget : (MonadState.get : Script Machine) calls m = .ok m m := rfl
    rw [put, putOn, bind_ok hget]
    simp only [ownProperty?_ordinary hcell hopen.ordinary, hnew, Machine.obj_eq hcell, hopen.below, Option.bind_some,
      property?_root hroot]
    cases hfound : root.named? (.name name) with
    | none => simp
    | some p =>
      obtain ⟨x, hx⟩ := hname p hfound
      obtain ⟨slot, enumerable, configurable⟩ := p
      cases hx
      simp
  rw [hput, hadd]
  exact define_new hcell hopen hnew (.plain w) calls

/-! ## Conversion for scripts -/

section Import

variable {root : Obj} (calls : Calls)

mutual

/-- Data become what stands for them, and nothing else changes. -/
theorem importVal_data {v : Value} (hdata : v.Data root.Receives) {m : Machine} (hroot : m.Rooted root) :
    ∃ w m', importVal v calls m = .ok w m' ∧ m.Extends [] m' ∧ Depicts m'.heap m.heap.size w v := by
  cases v with
  | undefined => exact ⟨_, m, rfl, .refl m, .undefined⟩
  | null => exact ⟨_, m, rfl, .refl m, .null⟩
  | bool b => exact ⟨_, m, rfl, .refl m, .bool b⟩
  | number x => exact ⟨_, m, rfl, .refl m, .number x⟩
  | text s => exact ⟨_, m, rfl, .refl m, .text s⟩
  | function f => exact hdata.elim
  | foreign name => exact hdata.elim
  | array items =>
    obtain ⟨ws, m₁, hitems, hgrown, hdepicts⟩ := importItems_data hdata.2 hroot
    obtain ⟨m₂, hnew, hgrown', hcell⟩ := alloc_eq (.row ws) calls m₁
    refine ⟨.obj m₁.heap.size, m₂, ?_, hgrown.trans hgrown', .array hgrown.size hcell ?_⟩
    · rw [importVal, bind_ok hitems]
      exact bind_ok hnew
    · exact hdepicts.frame (Nat.le_refl _) fun i o _ ho => hgrown'.cells i o List.not_mem_nil ho
  | object entries =>
    obtain ⟨m₁, hnew, hgrown, hcell⟩ := alloc_eq (.record []) calls m
    obtain ⟨props, m₂, hentries, hgrown', hcell', hdepicts⟩ := importEntries_data hdata.2 hdata.1.nodup
      (fun _ _ => rfl) (hroot.extends hgrown List.not_mem_nil) hcell
    refine ⟨.obj m.heap.size, m₂, ?_, ?_, .object (Nat.le_refl _) hcell' ?_⟩
    · have hmade : newObject .objectProto calls m = .ok m.heap.size m₁ := hnew
      rw [importVal, bind_ok hmade, bind_ok hentries]
      rfl
    · exact hgrown.trans_new (Nat.le_refl _) hgrown'
    · exact hdepicts.frame hgrown.size fun i o _ ho => ho

theorem importItems_data {items : List Value} (hdata : Value.AllData root.Receives items) {m : Machine}
    (hroot : m.Rooted root) :
    ∃ ws m', importItems items calls m = .ok ws m' ∧ m.Extends [] m' ∧ DepictsAll m'.heap m.heap.size ws items := by
  cases items with
  | nil => exact ⟨[], m, rfl, .refl m, .nil⟩
  | cons v rest =>
    obtain ⟨w, m₁, hfirst, hgrown, hdepicts⟩ := importVal_data hdata.1 hroot
    obtain ⟨ws, m₂, hrest, hgrown', hothers⟩ := importItems_data hdata.2 (hroot.extends hgrown List.not_mem_nil)
    refine ⟨w :: ws, m₂, ?_, hgrown.trans hgrown', .cons ?_ ?_⟩
    · rw [importItems, bind_ok hfirst, bind_ok hrest]
      rfl
    · exact hdepicts.frame (Nat.le_refl _) fun i o _ ho => hgrown'.cells i o List.not_mem_nil ho
    · exact hothers.frame hgrown.size fun i o _ ho => ho

/-- The entries are added to the properties of an object in their order. -/
theorem importEntries_data {entries : List (String × Value)} (hdata : Value.EntriesData root.Receives entries)
    (hnodup : (entries.map Prod.fst).Nodup) {props : List (Key × Property)}
    (hnew : ∀ e ∈ entries, props.lookup (.name e.1) = none) {m : Machine} (hroot : m.Rooted root) {id : Nat}
    (hcell : m.heap[id]? = some (.record props)) :
    ∃ added m', importEntries id entries calls m = .ok () m' ∧ m.Extends [id] m'
      ∧ m'.heap[id]? = some (.record (props ++ added)) ∧ DepictsEntries m'.heap m.heap.size added entries := by
  cases entries with
  | nil => exact ⟨[], m, rfl, .refl m, by rw [List.append_nil]; exact hcell, .nil⟩
  | cons e rest =>
    obtain ⟨k, v⟩ := e
    rw [List.map_cons, List.nodup_cons] at hnodup
    obtain ⟨w, m₁, hfirst, hgrown, hdepicts⟩ := importVal_data hdata.2.1 hroot
    obtain ⟨m₂, hput, hchanged, hcell₂⟩ := put_new (hroot.extends hgrown List.not_mem_nil)
      (hgrown.cells _ _ List.not_mem_nil hcell) (Obj.open_record props) hdata.1
      ((named?_record _).trans (hnew (k, v) List.mem_cons_self)) w calls
    rw [Obj.record_push] at hcell₂
    have hnew' : ∀ e ∈ rest, (props ++ [(Key.name k, Property.plain w)]).lookup (.name e.1) = none := by
      intro e he
      have hne : Key.name e.1 ≠ .name k := fun heq => hnodup.1 (List.mem_map.mpr ⟨e, he, Key.name.inj heq⟩)
      rw [List.lookup_append, hnew e (List.mem_cons_of_mem _ he), List.lookup_cons, beq_false_of_ne hne]
      rfl
    have hroot₂ := (hroot.extends hgrown List.not_mem_nil).extends hchanged (hroot.not_record hcell)
    obtain ⟨added, m₃, hrest, hchanged', hcell₃, hothers⟩ :=
      importEntries_data hdata.2.2 hnodup.2 hnew' hroot₂ hcell₂
    refine ⟨(.name k, .plain w) :: added, m₃, ?_, (hgrown.mono.trans hchanged).trans hchanged', ?_, .cons ?_ ?_⟩
    · rw [importEntries, bind_ok hfirst, bind_ok hput]
      exact hrest
    · rw [hcell₃, List.append_assoc]
      rfl
    · refine hdepicts.frame (Nat.le_refl _) fun i o hi ho => (hchanged.trans hchanged').cells i o ?_ ho
      have hlt := lt_size_of_cell hcell
      simp only [List.mem_singleton]
      omega
    · exact hothers.frame (Nat.le_trans hgrown.size hchanged.size) fun i o _ ho => ho

end

end Import

/-! ## There and back -/

theorem told_exportDepth (v : Value) :
    told (exportDepth + 1) v = if v.depth ≤ exportDepth then .ok v else .error nestedTooDeeply := by
  simp only [told, Nat.lt_succ_iff]

/-- Data are made known to a script, and read back as they were or refused for their depth, whatever else has changed
in between. -/
theorem exportVal_importVal {root : Obj} {v : Value} (hdata : v.Data root.Receives) {m : Machine} (hroot : m.Rooted root)
    (calls : Calls) :
    ∃ w m', importVal v calls m = .ok w m' ∧ m.Extends [] m' ∧
      ∀ later m'', (∀ i o, m.heap.size ≤ i → m'.heap[i]? = some o → m''.heap[i]? = some o) →
        exportVal w later m''
          = .ok (if v.depth ≤ exportDepth then .ok v else .error nestedTooDeeply) m'' := by
  obtain ⟨w, m', himport, hgrown, hdepicts⟩ := importVal_data calls hdata hroot
  refine ⟨w, m', himport, hgrown, fun later m'' hkept => ?_⟩
  rw [← told_exportDepth]
  exact exportAt_depicts (hdepicts.frame (Nat.le_refl _) hkept) hdata (exportDepth + 1)

/-! ## Global variables -/

/-- What a named item is read as. -/
def readBack (v : Value) : Answer Value :=
  if v.depth ≤ exportDepth then .ok v else .error (.refused (.conversion nestedTooDeeply))

theorem Obj.named?_push {o : Obj} {k : Key} (h : o.named? k = none) (p : Property) :
    ({ o with props := o.props.push (k, p) } : Obj).named? k = some p := by
  rw [Obj.named?_eq_lookup] at h ⊢
  rw [Array.toList_push, List.lookup_append, h, List.lookup_cons_self]
  rfl

/-- A call of the host that ends without an error, on a machine where nothing runs. -/
theorem serve_ok {α : Type} {act : Script (Answer α)} {m m' : Machine} {host : Host} {answer : Answer α}
    (h : act (callsAt library nestingLimit) { m with host } = .ok answer m') :
    Machine.serve act m host = (answer, m'.idle, m'.host) := by
  rw [Machine.serve, Machine.perform, h]

/-- A value bound to a new global name is read back. -/
theorem global_bind {root page : Obj} {v : Value} (hdata : v.Data root.Receives) {m : Machine} (hroot : m.Rooted root)
    (hcell : m.heap[Intrinsic.global.id]? = some page) (hopen : page.Open) {name : String} (hname : root.Receives name)
    (hnew : page.named? (.name name) = none) (host : Host) :
    ∃ m', interpreter.bind name v m host = (.ok (), m', host)
      ∧ interpreter.global name m' host = (readBack v, m', host) := by
  have hroot₀ : ({ m with host } : Machine).Rooted root := ⟨hroot.cell, hroot.ordinary, hroot.top⟩
  obtain ⟨w, m₁, himport, hgrown, hdepicts⟩ := importVal_data (callsAt library nestingLimit) hdata hroot₀
  obtain ⟨m₂, hput, hchanged, hcell₂⟩ := put_new (hroot₀.extends hgrown List.not_mem_nil)
    (hgrown.cells _ _ List.not_mem_nil hcell) hopen hname hnew w (callsAt library nestingLimit)
  have hhost : m₂.host = host := by rw [hchanged.others, hgrown.others]
  refine ⟨m₂.idle, ?_, ?_⟩
  · have hact : (do Script.bindGlobal name v; return .ok () : Script (Answer Unit)) (callsAt library nestingLimit)
        { m with host } = .ok (.ok ()) m₂ := bind_ok ((bind_ok himport).trans hput)
    change ProtoScript.bindGlobal name v m host = _
    rw [ProtoScript.bindGlobal, serve_ok hact, hhost]
  · have hidle : ({ m₂.idle with host } : Machine) = m₂.idle := by
      rw [← hhost]
      rfl
    have hown : m₂.idle.ownProperty? Intrinsic.global.id (.name name) = some (.plain w) :=
      (ownProperty?_ordinary hcell₂ hopen.ordinary _).trans (Obj.named?_push hnew _)
    have hlater : Depicts m₂.idle.heap m.heap.size w v :=
      hdepicts.frame (Nat.le_refl _) fun i o hi ho => by
        refine hchanged.cells i o ?_ ho
        have hlt := lt_size_of_cell hcell
        simp only [List.mem_singleton]
        omega
    have hread : getName Intrinsic.global.val name (callsAt library nestingLimit) m₂.idle = .ok w m₂.idle :=
      get_own hown
    have hact : (do toHost (← getName Intrinsic.global.val name) : Script (Answer Value)) (callsAt library nestingLimit)
        { m₂.idle with host } = .ok (readBack v) m₂.idle := by
      rw [hidle, bind_ok hread, toHost, exportVal, bind_ok (exportAt_depicts hlater hdata _), told_exportDepth,
        readBack]
      split <;> rfl
    change Machine.serve (do toHost (← getName Intrinsic.global.val name)) m₂.idle host = _
    rw [serve_ok hact]
    exact congrArg (fun h => (readBack v, m₂.idle, h)) hhost

/-! ## The machine before any text has run -/

/-- Plain objects can be given every property but the one that changes what they inherit from, and global variables can
be added. -/
structure Machine.Standard (m : Machine) (root page : Obj) : Prop where
  rooted : m.Rooted root
  receives : ∀ name, root.Receives name ↔ name ≠ "__proto__"
  cell : m.heap[Intrinsic.global.id]? = some page
  page_open : page.Open

theorem Obj.receives_of_isRoot {root : Obj} (h : root.isRoot = true) (name : String) :
    root.Receives name ↔ name ≠ "__proto__" := by
  unfold Obj.isRoot at h
  simp only [Bool.and_eq_true] at h
  obtain ⟨⟨_, hsetter⟩, hothers⟩ := h
  constructor
  · rintro hreceives rfl
    obtain ⟨p, hp, hfixed⟩ := (Option.any_eq_true _ _).mp hsetter
    rw [Property.isWritable_iff.mpr (hreceives p hp)] at hfixed
    cases hfixed
  · intro hname p hp
    rw [Obj.named?_eq_lookup] at hp
    obtain ⟨before, after, hprops, _⟩ := List.lookup_eq_some_iff.mp hp
    have hp := List.all_eq_true.mp hothers (.name name, p) (by rw [hprops]; simp)
    rw [Bool.or_eq_true, beq_iff_eq] at hp
    exact Property.isWritable_iff.mp (hp.resolve_left fun heq => hname (Key.name.inj heq))

theorem Machine.standard_of_isStandard {m : Machine} (h : m.isStandard = true) :
    m.Standard (m.obj Intrinsic.objectProto.id) (m.obj Intrinsic.global.id) := by
  obtain ⟨root, page, hroot, hpage, hisRoot, hisOpen⟩ := Machine.isStandard_iff.mp h
  have hreceives := Obj.receives_of_isRoot hisRoot
  simp only [Obj.isRoot, Obj.isOpen, Bool.and_eq_true, beq_iff_eq] at hisRoot hisOpen
  obtain ⟨⟨⟨hordinary, htop⟩, _⟩, _⟩ := hisRoot
  obtain ⟨⟨hpageOrdinary, hbelow⟩, hextensible⟩ := hisOpen
  rw [Machine.obj_eq hroot, Machine.obj_eq hpage]
  exact ⟨⟨hroot, Obj.kind_of_isOrdinary hordinary, htop⟩, hreceives, hpage,
    ⟨Obj.kind_of_isOrdinary hpageOrdinary, hbelow, hextensible⟩⟩

theorem standard_initial :
    Machine.initial.Standard (Machine.initial.obj Intrinsic.objectProto.id) (Machine.initial.obj Intrinsic.global.id) :=
  Machine.standard_of_isStandard Setup.standing_initial

/-- Data whose objects have no key that changes what they inherit from are read back from a new global name, or refused
for their depth. -/
theorem global_bind_standard {m : Machine} {root page : Obj} (hm : m.Standard root page) {v : Value}
    (hdata : v.Data (· ≠ "__proto__")) {name : String} (hname : name ≠ "__proto__")
    (hnew : page.named? (.name name) = none) (host : Host) :
    ∃ m', interpreter.bind name v m host = (.ok (), m', host)
      ∧ interpreter.global name m' host = (readBack v, m', host) :=
  global_bind (hdata.mono fun k => (hm.receives k).mpr) hm.rooted hm.cell hm.page_open ((hm.receives name).mpr hname) hnew
    host

end ScriptHost.ProtoScript
