import ScriptHost.Proofs.Depiction
import ScriptHost.ProtoScript.Library

/-!
# The construction of the machine

The machine is made in many steps, each of which adds a class or a namespace.  What plain objects inherit from is
complete once the class of objects has been added, for all later steps have homes of their own.

* `Machine.isStandard` — whether plain objects and global variables are as before any text has run.
* `Obj.isRoot_store`, `Obj.isOpen_store` — a property that can be written changes nothing of this.
* `Standing.installClass`, `Standing.installNamespace` — nor does a class or a namespace with a home of its own.
* `standing_initial` — **the finished machine is standard**.
-/

namespace ScriptHost.ProtoScript

/-! ## Objects that are standard -/

def Obj.isOrdinary (o : Obj) : Bool := match o.kind with
  | .ordinary => true
  | _ => false

theorem Obj.kind_of_isOrdinary {o : Obj} (h : o.isOrdinary = true) : o.kind = .ordinary := by
  unfold Obj.isOrdinary at h
  split at h
  · assumption
  · cases h

def Property.isWritable (p : Property) : Bool := match p.slot with
  | .value _ writable => writable
  | .accessor _ _ => false

theorem Property.isWritable_iff {p : Property} : p.isWritable = true ↔ ∃ x, p.slot = .value x true := by
  unfold Property.isWritable
  split
  · next x writable hslot => simp [hslot]
  · next hslot => simp [hslot]

/-- Only the property `__proto__` is no value that can be written. -/
def Obj.isRoot (o : Obj) : Bool :=
  o.isOrdinary && o.proto == none && (o.named? (.name "__proto__")).any (!·.isWritable)
    && o.props.toList.all fun e => e.1 == .name "__proto__" || e.2.isWritable

def Obj.isOpen (o : Obj) : Bool :=
  o.isOrdinary && o.proto == some Intrinsic.objectProto.id && o.extensible

/-- Whether a machine is as before any text has run, as far as plain objects and global variables go. -/
def Machine.isStandard (m : Machine) : Bool :=
  match m.heap[Intrinsic.objectProto.id]?, m.heap[Intrinsic.global.id]? with
  | some root, some page => root.isRoot && page.isOpen
  | _, _ => false

theorem Machine.isStandard_iff {m : Machine} : m.isStandard = true ↔
    ∃ root page, m.heap[Intrinsic.objectProto.id]? = some root ∧ m.heap[Intrinsic.global.id]? = some page ∧
      root.isRoot = true ∧ page.isOpen = true := by
  unfold Machine.isStandard
  constructor
  · intro h
    split at h
    · next root page hroot hpage =>
      obtain ⟨hisRoot, hisOpen⟩ := Bool.and_eq_true_iff.mp h
      exact ⟨root, page, hroot, hpage, hisRoot, hisOpen⟩
    · cases h
  · rintro ⟨root, page, hroot, hpage, hisRoot, hisOpen⟩
    rw [hroot, hpage]
    exact Bool.and_eq_true_iff.mpr ⟨hisRoot, hisOpen⟩

namespace Obj

variable {o : Obj} {k : Key} {p : Property}

/-- A property is added at the end, or in the place of an earlier one. -/
theorem setNamed_props (o : Obj) (k : Key) (p : Property) :
    (o.setNamed k p).props = o.props.push (k, p) ∨
      ∃ i q, o.props[i]? = some (k, q) ∧ (o.setNamed k p).props = o.props.setIfInBounds i (k, p) := by
  unfold setNamed
  cases hplace : o.place? k with
  | none => exact .inl rfl
  | some i =>
    obtain ⟨hlt, hkey, -⟩ := Array.findIdx?_eq_some_iff_getElem.mp hplace
    refine .inr ⟨i, (o.props[i]).2, ?_, rfl⟩
    rw [Array.getElem?_eq_getElem hlt, ← beq_iff_eq.mp hkey]

theorem setNamed_frame (o : Obj) (k : Key) (p : Property) :
    (o.setNamed k p).kind = o.kind ∧ (o.setNamed k p).proto = o.proto ∧
      (o.setNamed k p).extensible = o.extensible := by
  unfold setNamed
  split <;> exact ⟨rfl, rfl, rfl⟩

theorem store_ordinary (h : o.isOrdinary = true) (k : Key) (p : Property) : o.store k p = o.setNamed k p := by
  rw [store, hasElements, kind_of_isOrdinary h]
  rfl

theorem isOrdinary_setNamed (o : Obj) (k : Key) (p : Property) : (o.setNamed k p).isOrdinary = o.isOrdinary := by
  rw [isOrdinary, isOrdinary, (setNamed_frame o k p).1]

theorem isOpen_store (h : o.isOpen = true) (k : Key) (p : Property) : (o.store k p).isOpen = true := by
  have hordinary : o.isOrdinary = true := by
    rw [isOpen, Bool.and_eq_true, Bool.and_eq_true] at h
    exact h.1.1
  obtain ⟨-, hproto, hextensible⟩ := setNamed_frame o k p
  rw [store_ordinary hordinary, isOpen, isOrdinary_setNamed, hproto, hextensible]
  exact h

theorem lookup_set {α β : Type} [DecidableEq α] {entries : List (α × β)} {a b : α} {x y : β} {i : Nat}
    (hi : entries[i]? = some (a, x)) (hb : b ≠ a) : (entries.set i (a, y)).lookup b = entries.lookup b := by
  induction entries generalizing i with
  | nil => rfl
  | cons e rest ih =>
    cases i with
    | zero =>
      obtain rfl := Option.some.inj hi
      rw [List.set_cons_zero, List.lookup_cons, List.lookup_cons, beq_false_of_ne hb]
    | succ i => rw [List.set_cons_succ, List.lookup_cons, List.lookup_cons, ih hi]

/-- Another property is found as before. -/
theorem named?_setNamed {k' : Key} (hk : k' ≠ k) : (o.setNamed k p).named? k' = o.named? k' := by
  rw [named?_eq_lookup, named?_eq_lookup]
  rcases setNamed_props o k p with heq | ⟨i, q, hi, heq⟩
  · have hnone : [(k, p)].lookup k' = none := by rw [List.lookup_cons, beq_false_of_ne hk, List.lookup_nil]
    rw [heq, Array.toList_push, List.lookup_append, hnone, Option.or_none]
  · rw [heq, Array.toList_setIfInBounds]
    exact lookup_set (by rw [Array.getElem?_toList, hi]) hk

theorem isRoot_store (h : o.isRoot = true) (hk : k ≠ .name "__proto__") (hp : p.isWritable = true) :
    (o.store k p).isRoot = true := by
  simp only [isRoot, Bool.and_eq_true, List.all_eq_true] at h
  obtain ⟨⟨⟨hordinary, htop⟩, hsetter⟩, hall⟩ := h
  obtain ⟨-, hproto, -⟩ := setNamed_frame o k p
  rw [store_ordinary hordinary]
  simp only [isRoot, isOrdinary_setNamed, hproto, named?_setNamed hk.symm, hordinary, htop, hsetter, Bool.true_and,
    List.all_eq_true]
  intro e he
  rw [Array.mem_toList_iff] at he
  have hnew : (e.1 == .name "__proto__" || e.2.isWritable) = true ∨ e ∈ o.props := by
    rcases setNamed_props o k p with heq | ⟨i, q, -, heq⟩
    · rw [heq, Array.mem_push] at he
      exact he.symm.imp_left fun heq => by rw [heq, hp, Bool.or_true]
    · rw [heq] at he
      exact (Array.mem_or_eq_of_mem_setIfInBounds he).symm.imp_left fun heq => by rw [heq, hp, Bool.or_true]
  exact hnew.elim id fun hmem => hall e (Array.mem_toList_iff.mpr hmem)

end Obj

/-! ## Steps of the construction -/

namespace Setup

/-- A construction after which plain objects and global variables are standard. -/
def Standing (s : Setup) : Prop := s.machine.isStandard = true

/-- Not what plain objects inherit from. -/
def isBelow (i : Intrinsic) : Bool := i.id != Intrinsic.objectProto.id

/-- A fixed place that is neither what plain objects inherit from nor the home of global variables. -/
def isApart (i : Intrinsic) : Bool := isBelow i && i.id != Intrinsic.global.id

/-- Functions in new places, or in fixed ones apart. -/
def areApart (members : List Member) : Bool := members.all fun m => m.place.all isApart

theorem ne_of_isBelow {i : Intrinsic} (h : isBelow i = true) : i.id ≠ Intrinsic.objectProto.id := by
  rwa [isBelow, bne_iff_ne] at h

namespace Standing

variable {s : Setup}

theorem lt_size (h : Standing s) : Intrinsic.objectProto.id < s.machine.heap.size := by
  obtain ⟨root, page, hroot, -⟩ := Machine.isStandard_iff.mp h
  exact (Array.getElem?_eq_some_iff.mp hroot).1

theorem update (h : Standing s) (id : Nat) {f : Obj → Obj}
    (hroot : id = Intrinsic.objectProto.id → ∀ o, o.isRoot = true → (f o).isRoot = true)
    (hpage : id = Intrinsic.global.id → ∀ o, o.isOpen = true → (f o).isOpen = true) : Standing (s.update id f) := by
  obtain ⟨root, page, hr, hp, hisRoot, hisOpen⟩ := Machine.isStandard_iff.mp h
  refine Machine.isStandard_iff.mpr
    ⟨if id = Intrinsic.objectProto.id then f root else root, if id = Intrinsic.global.id then f page else page, ?_, ?_,
      ?_, ?_⟩
  · simp only [Setup.update, Array.getElem?_modify, hr]
    split <;> rfl
  · simp only [Setup.update, Array.getElem?_modify, hp]
    split <;> rfl
  · split
    · next hid => exact hroot hid root hisRoot
    · exact hisRoot
  · split
    · next hid => exact hpage hid page hisOpen
    · exact hisOpen

/-- A property of what plain objects inherit from has to be one that can be written. -/
theorem define (h : Standing s) {id : Nat} {k : Key} {p : Property}
    (hp : id = Intrinsic.objectProto.id → k ≠ .name "__proto__" ∧ p.isWritable = true) : Standing (s.define id k p) :=
  h.update id (fun hid _ ho => Obj.isRoot_store ho (hp hid).1 (hp hid).2) fun _ _ ho => Obj.isOpen_store ho k p

theorem push (h : Standing s) (o : Obj) :
    Standing { s with machine := { s.machine with heap := s.machine.heap.push o } } := by
  obtain ⟨root, page, hr, hp, hisRoot, hisOpen⟩ := Machine.isStandard_iff.mp h
  refine Machine.isStandard_iff.mpr ⟨root, page, ?_, ?_, hisRoot, hisOpen⟩
  · obtain ⟨hlt, hr⟩ := Array.getElem?_eq_some_iff.mp hr
    rw [Array.getElem?_push_lt hlt, hr]
  · obtain ⟨hlt, hp⟩ := Array.getElem?_eq_some_iff.mp hp
    rw [Array.getElem?_push_lt hlt, hp]

/-- A function of the machine gets an object of its own. -/
theorem addNative (h : Standing s) (n : Native) (place : Option Intrinsic)
    (hplace : place.all isApart = true) (proto : Nat) :
    (s.addNative n place proto).1 ≠ Intrinsic.objectProto.id ∧ Standing (s.addNative n place proto).2 := by
  cases place with
  | none => exact ⟨Nat.ne_of_gt h.lt_size, push h _⟩
  | some i =>
    obtain ⟨hbelow, hpage⟩ := Bool.and_eq_true_iff.mp hplace
    have hroot := ne_of_isBelow hbelow
    rw [bne_iff_ne] at hpage
    exact ⟨hroot, update (s := { s with library := s.library.push n }) h i.id (fun heq => absurd heq hroot)
      fun heq => absurd heq hpage⟩

theorem addMember (h : Standing s) {home : Nat} (hhome : home ≠ Intrinsic.objectProto.id) {m : Member}
    (hplace : m.place.all isApart = true) : Standing (s.addMember home m) := by
  have hadded := (h.addNative m.native m.place hplace Intrinsic.functionProto.id).2
  unfold Setup.addMember
  dsimp only
  split
  · exact hadded
  · exact hadded.define fun heq => absurd heq hhome

theorem addMembers (h : Standing s) {home : Nat} (hhome : home ≠ Intrinsic.objectProto.id) {members : List Member}
    (hplaces : areApart members = true) : Standing (members.foldl (Setup.addMember home) s) :=
  List.foldlRecOn members _ h fun _ hs m hm => addMember hs hhome (List.all_eq_true.mp hplaces m hm)

theorem addConstants (h : Standing s) {home : Nat} (hhome : home ≠ Intrinsic.objectProto.id)
    (constants : List (String × Val)) : Standing (s.addConstants home constants) :=
  List.foldlRecOn constants _ h fun _ hs _ _ => define hs fun heq => absurd heq hhome

/-- A class with a prototype and functions of its own. -/
theorem installClass (h : Standing s) (known : Bool) {c : ClassSpec} (hproto : isBelow c.proto = true)
    (hstatics : areApart c.statics = true) (hmethods : areApart c.methods = true) :
    Standing (s.installClass known c) := by
  have hhome := ne_of_isBelow hproto
  unfold Setup.installClass
  dsimp only
  generalize (c.parent.bind s.globalFunction?).getD Intrinsic.functionProto.id = parent
  obtain ⟨hf, hadded⟩ := h.addNative c.constructor none rfl parent
  generalize s.addNative c.constructor none parent = added at hf hadded
  have hlinked : Standing (added.2.define added.1 (.name "prototype") (.fixed (.obj c.proto.id))) :=
    hadded.define fun heq => absurd heq hf
  generalize added.2.define added.1 (.name "prototype") (.fixed (.obj c.proto.id)) = linked at hlinked
  have hmade : Standing (if known then linked.define c.proto.id (.name "constructor") (.hidden (.obj added.1))
      else linked.defineFirm c.proto.id (.name "constructor") (.obj added.1)) := by
    split <;> exact hlinked.define fun heq => absurd heq hhome
  generalize (if known then linked.define c.proto.id (.name "constructor") (.hidden (.obj added.1))
      else linked.defineFirm c.proto.id (.name "constructor") (.obj added.1)) = made at hmade ⊢
  have hfilled := ((hmade.addMembers hf hstatics).addConstants hf c.constants).addMembers hhome hmethods
  split
  · exact hfilled.define fun heq : Intrinsic.global.id = Intrinsic.objectProto.id => absurd heq (by decide)
  · exact hfilled

/-- A step that may be left out. -/
theorem perhaps (h : Standing s) (o : Option String) (f : String → Setup) (hf : ∀ a, Standing (f a)) :
    Standing (match o with
      | some a => f a
      | none => s) := by
  cases o with
  | none => exact h
  | some a => exact hf a

/-- An object with functions of its own. -/
theorem installNamespace (h : Standing s) {n : Namespace} (hhome : n.home.all isBelow = true)
    (hplaces : areApart n.members = true) : Standing (s.installNamespace n) := by
  have hfilled {home : Nat} {s : Setup} (h : Standing s) (hne : home ≠ Intrinsic.objectProto.id) :=
    (h.addMembers hne hplaces).addConstants hne n.constants
  have htagged {home : Nat} {s : Setup} (h : Standing s) (hne : home ≠ Intrinsic.objectProto.id) :=
    h.perhaps n.tag (fun tag => s.addTag home tag) fun tag => h.define fun heq => absurd heq hne
  have hnamed (home : Nat) {s : Setup} (h : Standing s) :=
    h.perhaps n.name (fun name => s.define Intrinsic.global.id (.name name) (.hidden (.obj home))) fun name =>
      h.define fun heq => absurd heq (by decide)
  unfold Setup.installNamespace
  cases hplace : n.home with
  | some i =>
    have hne : i.id ≠ Intrinsic.objectProto.id := ne_of_isBelow (by rwa [hplace] at hhome)
    exact hnamed i.id (htagged (hfilled h hne) hne)
  | none =>
    have hne : s.machine.heap.size ≠ Intrinsic.objectProto.id := Nat.ne_of_gt h.lt_size
    exact hnamed s.machine.heap.size (htagged (hfilled (h.push _) hne) hne)

theorem share (h : Standing s) (className : String) {name : String} (hname : name ≠ "__proto__") :
    Standing (Setup.share className s name) := by
  unfold Setup.share
  split
  · exact h.define fun _ => ⟨fun heq => hname (Key.name.inj heq), rfl⟩
  · exact h

theorem linkMaker (h : Standing s) (maker made : Intrinsic) (hmaker : isBelow maker = true)
    (hmade : isBelow made = true) : Standing (s.linkMaker maker made) :=
  (h.define fun heq => absurd heq (ne_of_isBelow hmaker)).define fun heq => absurd heq (ne_of_isBelow hmade)

end Standing

/-! ## The finished machine -/

/-- The machine once the class of objects has been added. -/
def early : Setup :=
  ((bare.update Intrinsic.functionProto.id fun o =>
    { o with props := (functionObject 0 silent Intrinsic.functionProto.id).props }).nameErrors).installClass true
      Builtin.Object.spec

theorem standing_early : Standing early := by
  unfold Standing
  decide +kernel

/-- All later classes and namespaces have homes of their own. -/
theorem standing_initial : Standing initial := by
  have hclasses : ∀ c ∈ classes.tail ++ makerClasses,
      isBelow c.proto = true ∧ areApart c.statics = true ∧ areApart c.methods = true := by
    simp only [← Bool.and_eq_true, ← List.all_eq_true]
    decide +kernel
  have hnamespaces : ∀ n ∈ namespaces, n.home.all isBelow = true ∧ areApart n.members = true := by
    simp only [← Bool.and_eq_true, ← List.all_eq_true]
    decide +kernel
  have htags : ∀ t ∈ tags, isBelow t.1 = true := by decide
  have hclassed : Standing (classes.tail.foldl (Setup.installClass true) early) := by
    refine List.foldlRecOn classes.tail (Setup.installClass true) standing_early fun _ hs c hc => ?_
    obtain ⟨hproto, hstatics, hmethods⟩ := hclasses c (List.mem_append_left _ hc)
    exact hs.installClass true hproto hstatics hmethods
  have hmade := List.foldlRecOn makerClasses (Setup.installClass false) hclassed fun _ hs c hc => by
    obtain ⟨hproto, hstatics, hmethods⟩ := hclasses c (List.mem_append_right _ hc)
    exact hs.installClass false hproto hstatics hmethods
  have hnamed := List.foldlRecOn namespaces Setup.installNamespace hmade fun _ hs n hn =>
    hs.installNamespace (hnamespaces n hn).1 (hnamespaces n hn).2
  have hshared := List.foldlRecOn ["parseInt", "parseFloat"] (Setup.share "Number") hnamed fun _ hs name hname =>
    hs.share "Number" (by rintro rfl; simp at hname)
  have htagged := List.foldlRecOn tags (fun s t => s.addTag t.1.id t.2) hshared fun _ hs t ht =>
    hs.define fun heq => absurd heq (ne_of_isBelow (htags t ht))
  have hlinked := (htagged.linkMaker .generatorFunctionProto .generatorProto rfl rfl).linkMaker
    .asyncGeneratorFunctionProto .asyncGeneratorProto rfl rfl
  have hcons (s : Setup) : classes.foldl (Setup.installClass true) s
      = classes.tail.foldl (Setup.installClass true) (s.installClass true Builtin.Object.spec) := by
    have hlist : classes = Builtin.Object.spec :: classes.tail := rfl
    exact (congrArg (List.foldl _ s) hlist).trans (List.foldl_cons ..)
  unfold initial
  dsimp only
  rw [hcons]
  exact (hlinked.define (by decide)).define (by decide)

end Setup

end ScriptHost.ProtoScript
