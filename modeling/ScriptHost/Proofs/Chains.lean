import Mathlib.Data.List.Perm.Subperm
import ScriptHost.TableScript.Table

/-!
# Chains of nodes

In the hash part of a table the keys with one main place form a chain, which begins at that place and
goes from node to node by their links.  A key that is added may push another one out of its node, and may
come first or second in a chain, but each key stays in the chain of its own place.

* `Leads` — the links lead from one place to another, through some nodes.
* `Woven` — the nodes in use make up one chain for each main place.
* `findFrom_leads`, `linkTo_leads` — what a search along a chain finds.
* `Woven.fill`, `Woven.push`, `Woven.follow` — the three ways in which a key is added.
* `addNode?_hashed` — **adding a key keeps all chains, and adds one entry**, if a node is free.
-/

namespace ScriptHost.TableScript

open Text (Bytes)

/-! ## Keys -/

/-- A key that stands for itself and is equal to no other value: an integer or a text. -/
def Val.IsPlain : Val → Prop
  | .int _ | .str _ => True
  | _ => False

theorem bytes_beq_iff {s t : Bytes} : (s == t) = true ↔ s = t := by
  have hdata : (s == t) = (s.data == t.data) := rfl
  rw [hdata, beq_iff_eq, ByteArray.ext_iff]

namespace Val.IsPlain

variable {k k' : Val}

theorem isNil (h : k.IsPlain) : k.isNil = false := by
  cases k <;> first | rfl | exact h.elim

theorem rawEqual_iff (h : k.IsPlain) (h' : k'.IsPlain) : k.rawEqual k' = true ↔ k = k' := by
  cases k with
  | int i => cases k' <;> first | exact h'.elim | simp [rawEqual]
  | str s => cases k' <;> first | exact h'.elim | simp [rawEqual, bytes_beq_iff]
  | _ => exact h.elim

theorem normalKey (h : k.IsPlain) : Table.normalKey k = k := by
  cases k <;> first | rfl | exact h.elim

end Val.IsPlain

namespace Table

/-! ## Nodes -/

/-- The node at a place; beyond the end there is only unused room. -/
def nodeAt (nodes : Array Node) (i : Nat) : Node := nodes.getD i {}

variable {nodes nodes' : Array Node} {key value : Val} {i j m : Nat}

theorem nodeAt_of_le (h : nodes.size ≤ i) : nodeAt nodes i = {} := by
  rw [nodeAt, Array.getD_eq_getD_getElem?, Array.getElem?_eq_none h]
  rfl

theorem nodeAt_set (nodes : Array Node) (hi : i < nodes.size) (n : Node) (j : Nat) :
    nodeAt (nodes.setIfInBounds i n) j = if j = i then n else nodeAt nodes j := by
  simp only [nodeAt, Array.getD_eq_getD_getElem?, Array.getElem?_setIfInBounds, if_pos hi, eq_comm]
  split <;> rfl

theorem nodeAt_modify (nodes : Array Node) (hi : i < nodes.size) (f : Node → Node) (j : Nat) :
    nodeAt (nodes.modify i f) j = if j = i then f (nodeAt nodes i) else nodeAt nodes j := by
  simp only [nodeAt, Array.getD_eq_getD_getElem?, Array.getElem?_modify, eq_comm]
  split
  · next h =>
    subst h
    simp [Array.getElem?_eq_getElem hi]
  · rfl

/-! ## Main places -/

theorem mainPlace_congr (h : nodes'.size = nodes.size) (key : Val) :
    mainPlace nodes' key = mainPlace nodes key := by
  simp only [mainPlace, h]

theorem or_one_le (n : Nat) : n ||| 1 ≤ n + 1 := by
  have hhalf : (n ||| 1) / 2 = n / 2 := by simp [Nat.or_div_two]
  omega

theorem mainPlace_lt (hsize : 0 < nodes.size) (h : key.IsPlain) : mainPlace nodes key < nodes.size := by
  cases key with
  | int i =>
    have hle := or_one_le (nodes.size - 1)
    have hpos : 0 < (nodes.size - 1) ||| 1 := Nat.pos_of_ne_zero (by simp [Nat.or_eq_zero_iff])
    have hlt := Nat.mod_lt i.toUInt64.toNat hpos
    simp only [mainPlace]
    omega
  | str s => exact Nat.mod_lt _ hsize
  | _ => exact h.elim

/-! ## Links -/

/-- The links lead from one place to another through some nodes, one after the other. -/
def Leads (nodes : Array Node) : Option Nat → List Nat → Option Nat → Prop
  | start, [], stop => start = stop
  | start, i :: rest, stop => start = some i ∧ Leads nodes (nodeAt nodes i).next rest stop

variable {start stop : Option Nat} {xs ys : List Nat}

theorem leads_append : Leads nodes start (xs ++ ys) stop ↔
    ∃ middle, Leads nodes start xs middle ∧ Leads nodes middle ys stop := by
  induction xs generalizing start with
  | nil => simp [Leads]
  | cons x xs ih => simp [Leads, ih, and_assoc]

namespace Leads

theorem congr (h : Leads nodes start xs stop)
    (hnext : ∀ i ∈ xs, (nodeAt nodes' i).next = (nodeAt nodes i).next) : Leads nodes' start xs stop := by
  induction xs generalizing start with
  | nil => exact h
  | cons x xs ih =>
    obtain ⟨hx, hrest⟩ := List.forall_mem_cons.mp hnext
    refine ⟨h.1, ?_⟩
    rw [hx]
    exact ih h.2 hrest

/-- From a place there is only one way to the end. -/
theorem unique (h : Leads nodes start xs none) (h' : Leads nodes start ys none) : xs = ys := by
  induction xs generalizing start ys with
  | nil =>
    obtain rfl : start = none := h
    cases ys with
    | nil => rfl
    | cons y ys => exact absurd h'.1 (by simp)
  | cons x xs ih =>
    obtain ⟨rfl, hrest⟩ := h
    cases ys with
    | nil => exact absurd h' (by simp [Leads])
    | cons y ys =>
      obtain ⟨hxy, hrest'⟩ := h'
      obtain rfl := Option.some.inj hxy
      rw [ih hrest hrest']

/-- A way to the end comes to no node twice, or it would never end. -/
theorem nodup (h : Leads nodes start xs none) : xs.Nodup := by
  induction xs generalizing start with
  | nil => exact List.nodup_nil
  | cons x xs ih =>
    refine List.nodup_cons.mpr ⟨fun hmem => ?_, ih h.2⟩
    obtain ⟨before, after, rfl⟩ := List.append_of_mem hmem
    obtain ⟨middle, -, hmiddle⟩ := leads_append.mp h.2
    have hsame := h.2.unique hmiddle.2
    have hlength := congrArg List.length hsame
    simp only [List.length_append, List.length_cons] at hlength
    omega

theorem length_le (h : Leads nodes start xs none) (hlt : ∀ i ∈ xs, i < nodes.size) :
    xs.length ≤ nodes.size := by
  have hsub : xs.Subperm (List.range nodes.size) := h.nodup.subperm fun i hi => List.mem_range.mpr (hlt i hi)
  exact Nat.le_trans hsub.length_le (Nat.le_of_eq List.length_range)

end Leads

/-! ## Searches -/

theorem findFrom_sound {fuel : Nat} (h : findFrom nodes key fuel i = some j) :
    j < nodes.size ∧ (nodeAt nodes j).key.rawEqual key = true := by
  induction fuel generalizing i with
  | zero => cases h
  | succ fuel ih =>
    unfold findFrom at h
    split at h
    · cases h
    · next node hnode =>
      split at h
      · next hequal =>
        cases h
        obtain ⟨hlt, -⟩ := Array.getElem?_eq_some_iff.mp hnode
        refine ⟨hlt, ?_⟩
        rw [nodeAt, Array.getD_eq_getD_getElem?, hnode]
        exact hequal
      · split at h
        · cases h
        · exact ih h

/-- A search comes to every node of a chain. -/
theorem findFrom_leads {fuel : Nat} (h : Leads nodes (some m) xs none) (hlt : ∀ i ∈ xs, i < nodes.size)
    (hi : i ∈ xs) (hequal : (nodeAt nodes i).key.rawEqual key = true) (hfuel : xs.length ≤ fuel) :
    ∃ j, findFrom nodes key fuel m = some j := by
  induction xs generalizing m fuel with
  | nil => cases hi
  | cons x xs ih =>
    obtain ⟨hx, hrest⟩ := h
    obtain rfl := Option.some.inj hx
    obtain ⟨hsize, hlt⟩ := List.forall_mem_cons.mp hlt
    cases fuel with
    | zero => cases hfuel
    | succ fuel =>
      have hnode : nodes[m]? = some (nodeAt nodes m) := by
        rw [nodeAt, Array.getD_eq_getD_getElem?, Array.getElem?_eq_getElem hsize]
        rfl
      rw [findFrom, hnode]
      dsimp only
      by_cases hhere : (nodeAt nodes m).key.rawEqual key = true
      · exact ⟨m, by rw [if_pos hhere]⟩
      rw [if_neg hhere]
      have hi : i ∈ xs := (List.mem_cons.mp hi).resolve_left fun heq => hhere (heq ▸ hequal)
      cases hnext : (nodeAt nodes m).next with
      | none =>
        rw [hnext] at hrest
        obtain ⟨y, ys, rfl⟩ := List.exists_cons_of_ne_nil (List.ne_nil_of_mem hi)
        exact absurd hrest.1 (by simp)
      | some next =>
        rw [hnext] at hrest
        exact ih hrest hlt hi (Nat.le_of_succ_le_succ hfuel)

/-- The node before another one in a chain is found. -/
theorem linkTo_leads {fuel target before : Nat} (h : Leads nodes (some m) (xs ++ [before]) (some target))
    (hmem : target ∉ xs ++ [before]) (hfuel : xs.length < fuel) : linkTo nodes target fuel m = before := by
  induction xs generalizing m fuel with
  | nil =>
    obtain ⟨hbefore, htarget⟩ := h
    obtain rfl := Option.some.inj hbefore
    cases fuel with
    | zero => cases hfuel
    | succ fuel =>
      rw [Leads, nodeAt] at htarget
      rw [linkTo, htarget]
      exact if_pos (beq_self_eq_true target)
  | cons x xs ih =>
    obtain ⟨hx, hrest⟩ := h
    obtain rfl := Option.some.inj hx
    have hmem : target ∉ xs ++ [before] := fun h => hmem (List.mem_cons_of_mem _ h)
    cases fuel with
    | zero => cases hfuel
    | succ fuel =>
      obtain ⟨y, ys, hys⟩ : ∃ y ys, xs ++ [before] = y :: ys := by
        cases xs with
        | nil => exact ⟨before, [], rfl⟩
        | cons y ys => exact ⟨y, ys ++ [before], rfl⟩
      have hnext : (nodeAt nodes m).next = some y := by
        rw [List.append_eq, hys] at hrest
        exact hrest.1
      have hne : (y == target) = false := by
        refine beq_false_of_ne fun heq => hmem ?_
        rw [hys, heq]
        exact List.mem_cons_self
      rw [hnext] at hrest
      rw [nodeAt] at hnext
      rw [linkTo, hnext]
      simp only [hne, Bool.false_eq_true, if_false]
      exact ih hrest hmem (Nat.lt_of_succ_lt_succ hfuel)

/-! ## Chains -/

/-- The node holds an entry. -/
def InUse (n : Node) : Prop := n.key.IsPlain ∧ n.value.isNil = false

/-- The node at a place holds an entry whose key has a main place. -/
def Belongs (nodes : Array Node) (m i : Nat) : Prop :=
  InUse (nodeAt nodes i) ∧ mainPlace nodes (nodeAt nodes i).key = m

/-- The links lead from a main place through just those nodes that hold its keys. -/
structure Chain (nodes : Array Node) (m : Nat) (xs : List Nat) : Prop where
  leads : xs ≠ [] → Leads nodes (some m) xs none
  mem_iff : ∀ i, i ∈ xs ↔ Belongs nodes m i

/-- Each node holds an entry or was never used, and each main place has a chain. -/
structure Woven (nodes : Array Node) : Prop where
  node : ∀ i, nodeAt nodes i = {} ∨ InUse (nodeAt nodes i)
  chain : ∀ m, ∃ xs, Chain nodes m xs

theorem not_inUse_empty : ¬InUse {} := fun h => h.1

theorem InUse.lt_size (h : InUse (nodeAt nodes i)) : i < nodes.size := by
  by_contra hge
  rw [nodeAt_of_le (Nat.le_of_not_lt hge)] at h
  exact not_inUse_empty h

theorem InUse.ne (h : InUse (nodeAt nodes i)) (hunused : nodeAt nodes j = {}) : i ≠ j := by
  rintro rfl
  exact not_inUse_empty (hunused ▸ h)

namespace Chain

theorem lt_size (h : Chain nodes m xs) : ∀ i ∈ xs, i < nodes.size :=
  fun i hi => ((h.mem_iff i).mp hi).1.lt_size

/-- A chain begins at its main place. -/
theorem eq_cons (h : Chain nodes m xs) (hi : i ∈ xs) : ∃ rest, xs = m :: rest := by
  have hleads := h.leads (List.ne_nil_of_mem hi)
  cases xs with
  | nil => cases hi
  | cons x rest =>
    obtain rfl := Option.some.inj hleads.1
    exact ⟨rest, rfl⟩

theorem congr (h : Chain nodes m xs) (hbelongs : ∀ i, Belongs nodes' m i ↔ Belongs nodes m i)
    (hnext : ∀ i, Belongs nodes m i → (nodeAt nodes' i).next = (nodeAt nodes i).next) :
    Chain nodes' m xs where
  leads hne := (h.leads hne).congr fun i hi => hnext i ((h.mem_iff i).mp hi)
  mem_iff i := (h.mem_iff i).trans (hbelongs i).symm

end Chain

/-- A key that has a node is found. -/
theorem Woven.findFrom (h : Woven nodes) (hi : InUse (nodeAt nodes i)) :
    ∃ j, findFrom nodes (nodeAt nodes i).key nodes.size (mainPlace nodes (nodeAt nodes i).key) = some j ∧
      InUse (nodeAt nodes j) ∧ (nodeAt nodes j).key = (nodeAt nodes i).key := by
  obtain ⟨xs, hxs⟩ := h.chain (mainPlace nodes (nodeAt nodes i).key)
  have hmem : i ∈ xs := (hxs.mem_iff i).mpr ⟨hi, rfl⟩
  have hleads := hxs.leads (List.ne_nil_of_mem hmem)
  have hequal := (hi.1.rawEqual_iff hi.1).mpr rfl
  obtain ⟨j, hj⟩ := findFrom_leads hleads hxs.lt_size hmem hequal (hleads.length_le hxs.lt_size)
  obtain ⟨-, hkey⟩ := findFrom_sound hj
  refine ⟨j, hj, ?_⟩
  rcases h.node j with hempty | hused
  · rw [hempty] at hkey
    obtain ⟨hplain, -⟩ := hi
    revert hkey hplain
    cases (nodeAt nodes i).key <;> simp [Val.rawEqual, Val.IsPlain]
  · exact ⟨hused, (hused.1.rawEqual_iff hi.1).mp hkey⟩

theorem woven_replicate (n : Nat) : Woven (Array.replicate n {}) := by
  have hempty (i : Nat) : nodeAt (Array.replicate n {}) i = {} := by
    simp only [nodeAt, Array.getD_eq_getD_getElem?, Array.getElem?_replicate]
    split <;> rfl
  refine ⟨fun i => .inl (hempty i), fun m => ⟨[], fun hne => absurd rfl hne, fun i => ?_⟩⟩
  refine ⟨fun hi => absurd hi List.not_mem_nil, fun hi => ?_⟩
  rw [Belongs, hempty] at hi
  exact absurd hi.1 not_inUse_empty

/-! ## A key is added -/

/-- As many nodes in chains, and those in use stay in use, and so is the one at a place. -/
structure Grown (nodes nodes' : Array Node) (place : Nat) : Prop where
  size : nodes'.size = nodes.size
  woven : Woven nodes'
  stays : ∀ i, InUse (nodeAt nodes i) → InUse (nodeAt nodes' i)
  taken : InUse (nodeAt nodes' place)

section Adding

variable {main free before place : Nat} {node : Node}

/-- Nodes are only changed to be in use. -/
theorem Woven.grown (h : Woven nodes) (hsize : nodes'.size = nodes.size)
    (hcases : ∀ i, InUse (nodeAt nodes' i) ∨ nodeAt nodes' i = nodeAt nodes i)
    (htaken : InUse (nodeAt nodes' m)) (hchain : ∀ m, ∃ xs, Chain nodes' m xs) : Grown nodes nodes' m where
  size := hsize
  woven := by
    refine ⟨fun i => ?_, hchain⟩
    rcases hcases i with hused | hsame
    · exact .inr hused
    · rw [hsame]
      exact h.node i
  stays i hi := by
    rcases hcases i with hused | hsame
    · exact hused
    · rwa [hsame]
  taken := htaken

/-! ### A key comes -/

/-- A key of some main place comes to an unused node, and all other keys stay where they are. -/
structure Joined (nodes nodes' : Array Node) (place main : Nat) : Prop where
  size : nodes'.size = nodes.size
  unused : nodeAt nodes place = {}
  new : Belongs nodes' main place
  key : ∀ i, i ≠ place → (nodeAt nodes' i).key = (nodeAt nodes i).key
  value : ∀ i, i ≠ place → (nodeAt nodes' i).value = (nodeAt nodes i).value

namespace Joined

theorem belongs_iff (h : Joined nodes nodes' place main) (hi : i ≠ place) :
    Belongs nodes' m i ↔ Belongs nodes m i := by
  rw [Belongs, Belongs, InUse, InUse, h.key i hi, h.value i hi, mainPlace_congr h.size]

theorem belongs_place (h : Joined nodes nodes' place main) : Belongs nodes' m place ↔ m = main :=
  ⟨fun hb => hb.2.symm.trans h.new.2, fun hm => hm ▸ h.new⟩

theorem ne_place (h : Joined nodes nodes' place main) (hi : Belongs nodes m i) : i ≠ place :=
  hi.1.ne h.unused

/-- The chain of another main place stays. -/
theorem chain (h : Joined nodes nodes' place main) (hm : m ≠ main) (hxs : Chain nodes m xs)
    (hnext : ∀ i, Belongs nodes m i → (nodeAt nodes' i).next = (nodeAt nodes i).next) : Chain nodes' m xs := by
  refine hxs.congr (fun i => ?_) hnext
  by_cases hi : i = place
  · subst hi
    exact iff_of_false (fun hb => hm (h.belongs_place.mp hb)) fun hb => h.ne_place hb rfl
  · exact h.belongs_iff hi

end Joined

/-- A key whose main place was never used goes there. -/
theorem Woven.fill (h : Woven nodes) (hmain : nodeAt nodes main = {}) (hlt : main < nodes.size)
    (hkey : key.IsPlain) (hvalue : value.isNil = false) (hplace : mainPlace nodes key = main) :
    Grown nodes (nodes.setIfInBounds main { key, value }) main := by
  have hsize : (nodes.setIfInBounds main { key, value }).size = nodes.size := Array.size_setIfInBounds
  have hnode := nodeAt_set nodes hlt { key, value }
  generalize nodes.setIfInBounds main { key, value } = nodes' at hsize hnode ⊢
  have hself : nodeAt nodes' main = { key, value } := by rw [hnode, if_pos rfl]
  have hother {i : Nat} (hi : i ≠ main) : nodeAt nodes' i = nodeAt nodes i := by rw [hnode, if_neg hi]
  have hjoined : Joined nodes nodes' main main := by
    refine ⟨hsize, hmain, ?_, fun i hi => by rw [hother hi], fun i hi => by rw [hother hi]⟩
    rw [Belongs, hself, mainPlace_congr hsize]
    exact ⟨⟨hkey, hvalue⟩, hplace⟩
  refine h.grown hsize (fun i => ?_) hjoined.new.1 fun m => ?_
  · by_cases hi : i = main
    · exact .inl (hi ▸ hjoined.new.1)
    · exact .inr (hother hi)
  obtain ⟨xs, hxs⟩ := h.chain m
  by_cases hm : m = main
  · subst hm
    refine ⟨[m], fun _ => ⟨rfl, by rw [hself]; rfl⟩, fun i => ?_⟩
    rw [List.mem_singleton]
    refine ⟨fun hi => hi ▸ hjoined.new, fun hi => ?_⟩
    by_contra hne
    -- the chain of the place was empty, for the place itself was
    obtain ⟨rest, rfl⟩ := hxs.eq_cons ((hxs.mem_iff i).mpr ((hjoined.belongs_iff hne).mp hi))
    exact hjoined.ne_place ((hxs.mem_iff m).mp List.mem_cons_self) rfl
  · exact ⟨xs, hjoined.chain hm hxs fun i hi => by rw [hother (hjoined.ne_place hi)]⟩

/-- A key that belongs where another one belongs too: it goes to the free node, second in the chain. -/
theorem Woven.follow (h : Woven nodes) (hmain : Belongs nodes main main) (hfree : nodeAt nodes free = {})
    (hlt : free < nodes.size) (hkey : key.IsPlain) (hvalue : value.isNil = false)
    (hplace : mainPlace nodes key = main) :
    Grown nodes ((nodes.setIfInBounds free { key, value, next := (nodeAt nodes main).next }).modify main
      fun n => { n with next := some free }) free := by
  have hne : main ≠ free := hmain.1.ne hfree
  have hset := nodeAt_set nodes hlt { key, value, next := (nodeAt nodes main).next }
  have hsize : (nodes.setIfInBounds free { key, value, next := (nodeAt nodes main).next }).size = nodes.size :=
    Array.size_setIfInBounds
  generalize nodes.setIfInBounds free { key, value, next := (nodeAt nodes main).next } = added
    at hset hsize ⊢
  have hnode := nodeAt_modify added (hsize ▸ hmain.1.lt_size) fun n => { n with next := some free }
  have hsize : (added.modify main fun n => { n with next := some free }).size = nodes.size :=
    Array.size_modify.trans hsize
  generalize (added.modify main fun n => { n with next := some free }) = nodes' at hnode hsize ⊢
  have hself : nodeAt nodes' free = { key, value, next := (nodeAt nodes main).next } := by
    rw [hnode, if_neg hne.symm, hset, if_pos rfl]
  have hfirst : nodeAt nodes' main = { nodeAt nodes main with next := some free } := by
    rw [hnode, if_pos rfl, hset, if_neg hne]
  have hother {i : Nat} (hi : i ≠ free) (hi' : i ≠ main) : nodeAt nodes' i = nodeAt nodes i := by
    rw [hnode, if_neg hi', hset, if_neg hi]
  have hjoined : Joined nodes nodes' free main := by
    refine ⟨hsize, hfree, ?_, fun i hi => ?_, fun i hi => ?_⟩
    · rw [Belongs, hself, mainPlace_congr hsize]
      exact ⟨⟨hkey, hvalue⟩, hplace⟩
    all_goals
      by_cases hi' : i = main
      · rw [hi', hfirst]
      · rw [hother hi hi']
  refine h.grown hsize (fun i => ?_) hjoined.new.1 fun m => ?_
  · by_cases hi : i = free
    · exact .inl (hi ▸ hjoined.new.1)
    by_cases hi' : i = main
    · rw [hi', hfirst]
      exact .inl hmain.1
    · exact .inr (hother hi hi')
  obtain ⟨xs, hxs⟩ := h.chain m
  by_cases hm : m = main
  · subst hm
    obtain ⟨rest, rfl⟩ := hxs.eq_cons ((hxs.mem_iff m).mpr hmain)
    have hleads := hxs.leads (List.cons_ne_nil _ _)
    have hnodup := List.nodup_cons.mp hleads.nodup
    refine ⟨m :: free :: rest, fun _ => ⟨rfl, ?_⟩, fun i => ?_⟩
    · rw [hfirst]
      refine ⟨rfl, ?_⟩
      rw [hself]
      refine hleads.2.congr fun i hi => ?_
      have hb := (hxs.mem_iff i).mp (List.mem_cons_of_mem _ hi)
      have hi' : i ≠ m := fun heq => hnodup.1 (heq ▸ hi)
      rw [hother (hjoined.ne_place hb) hi']
    · rw [List.mem_cons, List.mem_cons]
      by_cases hi : i = free
      · subst hi
        exact iff_of_true (.inr (.inl rfl)) hjoined.new
      · rw [hjoined.belongs_iff hi, ← hxs.mem_iff, List.mem_cons, or_iff_right hi]
  · refine ⟨xs, hjoined.chain hm hxs fun i hi => ?_⟩
    have hi' : i ≠ main := by
      rintro rfl
      exact hm (hi.2.symm.trans hmain.2)
    rw [hother (hjoined.ne_place hi) hi']

/-! ### A key pushes another one out -/

/-- What becomes of the nodes when a new one comes in the place of another one, which moves to a free place:
the link that led to it leads there. -/
structure Pushed (nodes nodes' : Array Node) (before main free : Nat) (node : Node) : Prop where
  size : nodes'.size = nodes.size
  unused : nodeAt nodes free = {}
  atMain : nodeAt nodes' main = node
  atFree : nodeAt nodes' free = nodeAt nodes main
  atBefore : nodeAt nodes' before = { nodeAt nodes before with next := some free }
  other : ∀ i, i ≠ main → i ≠ free → i ≠ before → nodeAt nodes' i = nodeAt nodes i

theorem pushed (hused : InUse (nodeAt nodes main)) (hbefore : InUse (nodeAt nodes before))
    (hne : before ≠ main) (hfree : nodeAt nodes free = {}) (hlt : free < nodes.size) (node : Node) :
    Pushed nodes (((nodes.modify before fun n => { n with next := some free }).setIfInBounds free
      (nodeAt nodes main)).setIfInBounds main node) before main free node := by
  have hmain_free : main ≠ free := hused.ne hfree
  have hbefore_free : before ≠ free := hbefore.ne hfree
  -- the three changes, one after the other
  have hlink := nodeAt_modify nodes hbefore.lt_size fun n => { n with next := some free }
  have hsize : (nodes.modify before fun n => { n with next := some free }).size = nodes.size := Array.size_modify
  generalize (nodes.modify before fun n => { n with next := some free }) = linked at hlink hsize ⊢
  have hmove := nodeAt_set linked (hsize ▸ hlt) (nodeAt nodes main)
  have hsize : (linked.setIfInBounds free (nodeAt nodes main)).size = nodes.size :=
    Array.size_setIfInBounds.trans hsize
  generalize linked.setIfInBounds free (nodeAt nodes main) = moved at hmove hsize ⊢
  have hadd := nodeAt_set moved (hsize ▸ hused.lt_size) node
  refine ⟨Array.size_setIfInBounds.trans hsize, hfree, ?_, ?_, ?_, fun i hi hi' hi'' => ?_⟩
  · rw [hadd, if_pos rfl]
  · rw [hadd, if_neg hmain_free.symm, hmove, if_pos rfl]
  · rw [hadd, if_neg hne, hmove, if_neg hbefore_free, hlink, if_pos rfl]
  · rw [hadd, if_neg hi, hmove, if_neg hi', hlink, if_neg hi'']

namespace Pushed

variable {ys zs : List Nat}

theorem belongs_main (h : Pushed nodes nodes' before main free node) (hnode : InUse node)
    (hplace : mainPlace nodes node.key = main) : Belongs nodes' m main ↔ m = main := by
  rw [Belongs, h.atMain, mainPlace_congr h.size, hplace]
  exact ⟨fun hb => hb.2.symm, fun hm => ⟨hnode, hm.symm⟩⟩

theorem belongs_free (h : Pushed nodes nodes' before main free node) :
    Belongs nodes' m free ↔ Belongs nodes m main := by
  rw [Belongs, Belongs, h.atFree, mainPlace_congr h.size]

theorem belongs_iff (h : Pushed nodes nodes' before main free node) (hi : i ≠ main) (hi' : i ≠ free) :
    Belongs nodes' m i ↔ Belongs nodes m i := by
  by_cases hi'' : i = before
  · rw [Belongs, Belongs, hi'', h.atBefore, mainPlace_congr h.size]
    rfl
  · rw [Belongs, Belongs, h.other i hi hi' hi'', mainPlace_congr h.size]

theorem inUse (h : Pushed nodes nodes' before main free node) (hnode : InUse node)
    (hused : InUse (nodeAt nodes main)) (hbefore : InUse (nodeAt nodes before)) (i : Nat) :
    InUse (nodeAt nodes' i) ∨ nodeAt nodes' i = nodeAt nodes i := by
  by_cases hi : i = main
  · exact .inl (hi ▸ h.atMain ▸ hnode)
  by_cases hi' : i = free
  · exact .inl (hi' ▸ h.atFree ▸ hused)
  by_cases hi'' : i = before
  · rw [hi'', h.atBefore]
    exact .inl hbefore
  · exact .inr (h.other i hi hi' hi'')

/-- The new key makes up a chain, for no other one belongs to its place. -/
theorem chain_main (h : Pushed nodes nodes' before main free node) (hnode : InUse node)
    (hplace : mainPlace nodes node.key = main) (hlast : node.next = none) (hout : ¬Belongs nodes main main)
    (hzs : Chain nodes main zs) : Chain nodes' main [main] := by
  refine ⟨fun _ => ⟨rfl, by rw [h.atMain, hlast]; rfl⟩, fun i => ?_⟩
  rw [List.mem_singleton]
  refine ⟨fun hi => hi ▸ (h.belongs_main hnode hplace).mpr rfl, fun hi => ?_⟩
  by_contra hne
  have hi' : i ≠ free := fun heq => hout (h.belongs_free.mp (heq ▸ hi))
  obtain ⟨rest, rfl⟩ := hzs.eq_cons ((hzs.mem_iff i).mpr ((h.belongs_iff hne hi').mp hi))
  exact hout ((hzs.mem_iff main).mp List.mem_cons_self)

/-- The chain of the key that moved goes to its new place. -/
theorem chain_moved (h : Pushed nodes nodes' before main free node) (hnode : InUse node)
    (hplace : mainPlace nodes node.key = main) (hm : m ≠ main)
    (hchain : Chain nodes m (xs ++ before :: main :: ys)) : Chain nodes' m (xs ++ before :: free :: ys) := by
  have hleads := hchain.leads (by simp)
  have hnodup := hleads.nodup
  have hbelongs : ∀ i ∈ xs ++ before :: main :: ys, Belongs nodes m i := fun i hi => (hchain.mem_iff i).mp hi
  refine ⟨fun _ => ?_, fun i => ?_⟩
  · obtain ⟨middle, hfirst, hmiddle, hnext, hrest⟩ := leads_append.mp hleads
    have hkept : ∀ i ∈ xs ++ ys, (nodeAt nodes' i).next = (nodeAt nodes i).next := by
      intro i hi
      have hi_free : i ≠ free := (hbelongs i (by grind)).1.ne h.unused
      rw [h.other i (by grind) hi_free (by grind)]
    refine leads_append.mpr ⟨middle, hfirst.congr fun i hi => hkept i (List.mem_append_left _ hi), hmiddle, ?_⟩
    rw [h.atBefore]
    refine ⟨rfl, ?_⟩
    rw [h.atFree]
    exact hrest.congr fun i hi => hkept i (List.mem_append_right _ hi)
  · by_cases hi : i = main
    · subst hi
      have hne : i ≠ free := (hbelongs i (by simp)).1.ne h.unused
      exact iff_of_false (by grind) fun hb => hm ((h.belongs_main hnode hplace).mp hb)
    by_cases hi' : i = free
    · subst hi'
      exact iff_of_true (by simp) (h.belongs_free.mpr (hbelongs main (by simp)))
    · rw [h.belongs_iff hi hi', ← hchain.mem_iff]
      simp [hi, hi']

/-- The chains of all other places stay. -/
theorem chain_other (h : Pushed nodes nodes' before main free node) (hnode : InUse node)
    (hplace : mainPlace nodes node.key = main) (hmain : Belongs nodes m main) (hbefore : Belongs nodes m before)
    {k : Nat} (hk : k ≠ main) (hkm : k ≠ m) (hzs : Chain nodes k zs) : Chain nodes' k zs := by
  have hapart {i j : Nat} (hi : Belongs nodes k i) (hj : Belongs nodes m j) : i ≠ j := by
    rintro rfl
    exact hkm (hi.2.symm.trans hj.2)
  refine hzs.congr (fun i => ?_) fun i hi => ?_
  · by_cases hi : i = main
    · subst hi
      exact iff_of_false (fun hb => hk ((h.belongs_main hnode hplace).mp hb)) fun hb => hapart hb hmain rfl
    by_cases hi' : i = free
    · subst hi'
      exact iff_of_false (fun hb => hapart (h.belongs_free.mp hb) hmain rfl) fun hb => hb.1.ne h.unused rfl
    · exact h.belongs_iff hi hi'
  · rw [h.other i (hapart hi hmain) (hi.1.ne h.unused) (hapart hi hbefore)]

end Pushed

theorem Chain.before_ne {ys : List Nat} (h : Chain nodes m (xs ++ before :: main :: ys)) : before ≠ main := by
  rintro rfl
  have hnodup := (h.leads (by simp)).nodup
  exact (List.nodup_cons.mp (List.nodup_append.mp hnodup).2.1).1 List.mem_cons_self

/-- A key whose place is taken by a key of another place: that one moves to the free node, and its chain
goes there. -/
theorem Woven.push (h : Woven nodes) {ys : List Nat} (hchain : Chain nodes m (xs ++ before :: main :: ys))
    (hfree : nodeAt nodes free = {}) (hlt : free < nodes.size) (hkey : key.IsPlain) (hvalue : value.isNil = false)
    (hplace : mainPlace nodes key = main) (hm : m ≠ main) :
    Grown nodes (((nodes.modify before fun n => { n with next := some free }).setIfInBounds free
      (nodeAt nodes main)).setIfInBounds main { key, value, next := none }) free := by
  have hmain : Belongs nodes m main := (hchain.mem_iff main).mp (by simp)
  have hbefore : Belongs nodes m before := (hchain.mem_iff before).mp (by simp)
  have hpushed := pushed hmain.1 hbefore.1 hchain.before_ne hfree hlt { key, value, next := none }
  have htaken := (hpushed.belongs_free.mpr hmain).1
  refine h.grown hpushed.size (hpushed.inUse ⟨hkey, hvalue⟩ hmain.1 hbefore.1) htaken fun k => ?_
  obtain ⟨zs, hzs⟩ := h.chain k
  by_cases hk : k = main
  · subst hk
    have hout : ¬Belongs nodes k k := fun hb => hm (hmain.2.symm.trans hb.2)
    exact ⟨[k], hpushed.chain_main ⟨hkey, hvalue⟩ hplace rfl hout hzs⟩
  by_cases hkm : k = m
  · subst hkm
    exact ⟨_, hpushed.chain_moved ⟨hkey, hvalue⟩ hplace hm hchain⟩
  · exact ⟨zs, hpushed.chain_other ⟨hkey, hvalue⟩ hplace hmain hbefore hk hkm hzs⟩

/-- The node before a key that is not at its main place is found from there. -/
theorem Chain.linkTo {zs : List Nat} (h : Chain nodes m zs) (hmain : main ∈ zs) (hm : m ≠ main) :
    ∃ xs before ys, zs = xs ++ before :: main :: ys ∧ Table.linkTo nodes main nodes.size m = before := by
  obtain ⟨rest, hcons⟩ := h.eq_cons hmain
  have hleads := h.leads (List.ne_nil_of_mem hmain)
  have hlength := hleads.length_le h.lt_size
  have hnodup := hleads.nodup
  obtain ⟨ps, ys, rfl⟩ := List.append_of_mem hmain
  rcases List.eq_nil_or_concat ps with rfl | ⟨xs, before, rfl⟩
  · exact absurd (List.cons.inj hcons).1.symm hm
  rw [List.concat_eq_append] at hleads hnodup hlength ⊢
  refine ⟨xs, before, ys, by simp, ?_⟩
  obtain ⟨middle, hfirst, hmiddle, -⟩ := leads_append.mp hleads
  subst hmiddle
  refine linkTo_leads hfirst (fun hmem => ?_) ?_
  · exact (List.nodup_append.mp hnodup).2.2 main hmem main List.mem_cons_self rfl
  · simp only [List.length_append, List.length_cons] at hlength
    omega

end Adding

/-! ## Entries -/

/-- The entry of a node, if it has one. -/
def held (n : Node) : List (Val × Val) := if n.value.isNil then [] else [(n.key, n.value)]

/-- The entries of the hash part in the order of a traversal. -/
def nodeEntries (nodes : Array Node) : List (Val × Val) := nodes.toList.flatMap held

theorem held_empty : held {} = [] := rfl

theorem held_inUse {n : Node} (h : InUse n) : held n = [(n.key, n.value)] := by
  rw [held, h.2]
  rfl

theorem nodeEntries_set (hi : i < nodes.size) (n : Node) :
    (held (nodeAt nodes i) ++ nodeEntries (nodes.setIfInBounds i n)).Perm (held n ++ nodeEntries nodes) := by
  have hlt : i < nodes.toList.length := by rwa [Array.length_toList]
  have hthere : nodeAt nodes i = nodes.toList[i] := by
    rw [nodeAt, Array.getD_eq_getD_getElem?, Array.getElem?_eq_getElem hi, Array.getElem_toList]
    rfl
  have hset := (List.set_perm_cons_eraseIdx hlt n).flatMap_right held
  have hrest := (List.getElem_cons_eraseIdx_perm hlt).flatMap_right held
  rw [List.flatMap_cons] at hset hrest
  rw [nodeEntries, nodeEntries, Array.toList_setIfInBounds, hthere]
  refine (hset.append_left _).trans ?_
  rw [← List.append_assoc]
  refine (List.perm_append_comm.append_right _).trans ?_
  rw [List.append_assoc]
  exact hrest.append_left _

/-- Links are no part of entries. -/
theorem nodeEntries_link (nodes : Array Node) (i : Nat) (next : Option Nat) :
    nodeEntries (nodes.modify i fun n => { n with next }) = nodeEntries nodes := by
  have hheld : (nodes.modify i fun n => { n with next }).toList.map held = nodes.toList.map held := by
    refine List.ext_getElem? fun j => ?_
    rw [List.getElem?_map, List.getElem?_map, Array.getElem?_toList, Array.getElem?_toList,
      Array.getElem?_modify]
    split
    · cases nodes[j]? <;> rfl
    · rfl
  rw [nodeEntries, nodeEntries, List.flatMap_def, List.flatMap_def, hheld]

/-- An unused node is put in use. -/
theorem nodeEntries_fill (hi : i < nodes.size) (hempty : nodeAt nodes i = {}) {n : Node} (hn : InUse n) :
    (nodeEntries (nodes.setIfInBounds i n)).Perm ((n.key, n.value) :: nodeEntries nodes) := by
  have hset := nodeEntries_set hi n
  rwa [hempty, held_empty, held_inUse hn] at hset

/-- An entry moves to an unused node, and another one comes in its place. -/
theorem nodeEntries_push {main free before : Nat} (hmain : InUse (nodeAt nodes main))
    (hfree : nodeAt nodes free = {}) (hlt : free < nodes.size) (hbefore : before < nodes.size)
    (hne : before ≠ main) (hne' : before ≠ free) {n : Node} (hn : InUse n) :
    (nodeEntries (((nodes.modify before fun n => { n with next := some free }).setIfInBounds free
      (nodeAt nodes main)).setIfInBounds main n)).Perm ((n.key, n.value) :: nodeEntries nodes) := by
  have hmain_free : main ≠ free := hmain.ne hfree
  have hlink := nodeAt_modify nodes hbefore fun n => { n with next := some free }
  have hentries := nodeEntries_link nodes before (some free)
  have hsize : (nodes.modify before fun n => { n with next := some free }).size = nodes.size := Array.size_modify
  generalize (nodes.modify before fun n => { n with next := some free }) = linked at hlink hentries hsize ⊢
  have hempty : nodeAt linked free = {} := by rw [hlink, if_neg hne'.symm, hfree]
  have hmoved := nodeEntries_fill (hsize ▸ hlt) hempty hmain
  have hthere : nodeAt (linked.setIfInBounds free (nodeAt nodes main)) main = nodeAt nodes main := by
    rw [nodeAt_set linked (hsize ▸ hlt), if_neg hmain_free, hlink, if_neg hne.symm]
  have hlt' : main < (linked.setIfInBounds free (nodeAt nodes main)).size := by
    rw [Array.size_setIfInBounds, hsize]
    exact hmain.lt_size
  have hset := nodeEntries_set hlt' n
  rw [hthere, held_inUse hmain, held_inUse hn, List.singleton_append, List.singleton_append] at hset
  rw [hentries] at hmoved
  exact (hset.trans ((hmoved.cons _).trans (.swap _ _ _))).cons_inv

/-! ## Free nodes -/

theorem freeBelow_eq_none {n : Nat} (h : freeBelow nodes n = none) :
    ∀ i < n, (nodeAt nodes i).key.isNil = false := by
  induction n with
  | zero => exact fun i hi => absurd hi (Nat.not_lt_zero i)
  | succ n ih =>
    unfold freeBelow at h
    split at h
    · cases h
    · next hlast =>
      intro i hi
      rcases Nat.lt_succ_iff_lt_or_eq.mp hi with hlt | rfl
      · exact ih h i hlt
      · exact Bool.not_eq_true _ ▸ hlast

theorem freeBelow_eq_some {n free : Nat} (h : freeBelow nodes n = some free) :
    free < n ∧ (nodeAt nodes free).key.isNil = true ∧
      ∀ i, free < i → i < n → (nodeAt nodes i).key.isNil = false := by
  induction n with
  | zero => cases h
  | succ n ih =>
    unfold freeBelow at h
    split at h
    · next hlast =>
      cases h
      exact ⟨Nat.lt_succ_self _, hlast, fun i hi hi' => by omega⟩
    · next hlast =>
      obtain ⟨hlt, hnil, habove⟩ := ih h
      refine ⟨Nat.lt_succ_of_lt hlt, hnil, fun i hi hi' => ?_⟩
      rcases Nat.lt_succ_iff_lt_or_eq.mp hi' with hlt' | rfl
      · exact habove i hi hlt'
      · exact Bool.not_eq_true _ ▸ hlast

variable {free : Nat}

/-- The hash part is in order: its nodes make up chains, and those from the mark on are in use. -/
structure Hashed (nodes : Array Node) (free : Nat) : Prop where
  woven : Woven nodes
  le_size : free ≤ nodes.size
  used : ∀ i, free ≤ i → i < nodes.size → InUse (nodeAt nodes i)

theorem Hashed.unused_iff (h : Hashed nodes free) : nodeAt nodes i = {} ↔ (nodeAt nodes i).key.isNil = true := by
  refine ⟨fun heq => by rw [heq]; rfl, fun hnil => (h.woven.node i).resolve_right fun hused => ?_⟩
  rw [hused.1.isNil] at hnil
  cases hnil

/-- While not every node is in use, a free one is found, and all behind it are in use. -/
theorem Hashed.freeBelow (h : Hashed nodes m) (hroom : ∃ i < nodes.size, nodeAt nodes i = {}) :
    ∃ free, freeBelow nodes m = some free ∧ free < nodes.size ∧ nodeAt nodes free = {} ∧
      ∀ i, free < i → i < nodes.size → InUse (nodeAt nodes i) := by
  cases hfound : Table.freeBelow nodes m with
  | none =>
    obtain ⟨i, hi, hempty⟩ := hroom
    exfalso
    by_cases him : i < m
    · have hkey := freeBelow_eq_none hfound i him
      rw [hempty] at hkey
      cases hkey
    · exact not_inUse_empty (hempty ▸ h.used i (Nat.le_of_not_lt him) hi)
  | some free =>
    obtain ⟨hlt, hnil, habove⟩ := freeBelow_eq_some hfound
    refine ⟨free, rfl, Nat.lt_of_lt_of_le hlt h.le_size, h.unused_iff.mpr hnil, fun i hi hi' => ?_⟩
    by_cases him : i < m
    · refine (h.woven.node i).resolve_left fun heq => ?_
      rw [h.unused_iff, habove i hi him] at heq
      cases heq
    · exact h.used i (Nat.le_of_not_lt him) hi'

/-- The mark moves down to the node that was taken. -/
theorem Grown.hashed (h : Grown nodes nodes' free) (hlt : free < nodes.size)
    (habove : ∀ i, free < i → i < nodes.size → InUse (nodeAt nodes i)) : Hashed nodes' free where
  woven := h.woven
  le_size := by
    rw [h.size]
    exact Nat.le_of_lt hlt
  used i hi hi' := by
    rw [h.size] at hi'
    rcases Nat.lt_or_eq_of_le hi with hlt | rfl
    · exact h.stays i (habove i hlt hi')
    · exact h.taken

/-- **A key is added** if there is room for it: the hash part stays in order, with one entry more. -/
theorem addNode?_hashed {t : Table} (h : Hashed t.nodes t.free) (hkey : key.IsPlain)
    (hvalue : value.isNil = false) (hroom : ∃ i < t.nodes.size, nodeAt t.nodes i = {}) :
    ∃ nodes free, t.addNode? key value = some { t with nodes, free } ∧ nodes.size = t.nodes.size ∧
      Hashed nodes free ∧ (nodeEntries nodes).Perm ((key, value) :: nodeEntries t.nodes) := by
  have hsize : 0 < t.nodes.size := by
    obtain ⟨i, hi, -⟩ := hroom
    exact Nat.zero_lt_of_lt hi
  have hlt := mainPlace_lt hsize hkey
  unfold addNode?
  rw [if_neg (Nat.ne_of_gt hsize)]
  simp only [← nodeAt.eq_1]
  generalize hmain : mainPlace t.nodes key = main at hlt
  rcases h.woven.node main with hempty | hused
  · have hgrown := h.woven.fill hempty hlt hkey hvalue hmain
    refine ⟨_, t.free, ?_, hgrown.size, ⟨hgrown.woven, ?_, fun i hi hi' => ?_⟩,
      nodeEntries_fill hlt hempty ⟨hkey, hvalue⟩⟩
    · rw [hempty]
      exact if_pos rfl
    · rw [hgrown.size]
      exact h.le_size
    · rw [hgrown.size] at hi'
      exact hgrown.stays i (h.used i hi hi')
  obtain ⟨free, hfound, hfreelt, hfree, habove⟩ := h.freeBelow hroom
  have hvalue' : ¬(nodeAt t.nodes main).value.isNil = true := by simp [hused.2]
  rw [if_neg hvalue', hfound]
  dsimp only
  by_cases hplace : mainPlace t.nodes (nodeAt t.nodes main).key = main
  · have hgrown := h.woven.follow ⟨hused, hplace⟩ hfree hfreelt hkey hvalue hmain
    refine ⟨_, free, if_neg (by simp [hplace]), hgrown.size, hgrown.hashed hfreelt habove, ?_⟩
    rw [nodeEntries_link]
    exact nodeEntries_fill hfreelt hfree ⟨hkey, hvalue⟩
  · generalize hm : mainPlace t.nodes (nodeAt t.nodes main).key = m at hplace ⊢
    obtain ⟨zs, hzs⟩ := h.woven.chain m
    obtain ⟨xs, before, ys, rfl, hbefore⟩ := hzs.linkTo ((hzs.mem_iff main).mpr ⟨hused, hm⟩) hplace
    have hgrown := h.woven.push hzs hfree hfreelt hkey hvalue hmain hplace
    have hb : Belongs t.nodes m before := (hzs.mem_iff before).mp (by simp)
    refine ⟨_, free, ?_, hgrown.size, hgrown.hashed hfreelt habove, ?_⟩
    · rw [hbefore]
      exact if_pos (by simp [hplace])
    · exact nodeEntries_push hused hfree hfreelt hb.1.lt_size hzs.before_ne (hb.1.ne hfree) ⟨hkey, hvalue⟩

end Table

end ScriptHost.TableScript
