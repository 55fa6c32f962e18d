import ScriptHost.Proofs.BundleText

/-!
# Loading bundles

A page is a tree of objects, and a bundle is a program that assigns properties in it: first those of the
namespace, each unless it is there already, and then those of the templates.

* `Item` — pages, and the values in them, seen from outside by `Item.content?`.
* `Statement` — the guards and entries of a bundle, with their texts and what they do to a page.
* `Load` — a bundle that is loaded; its program has the text of the bundle.
* `Load.exists_run` — **a bundle runs on every page that is ready for it**, and changes the namespace and what
  it pushes.
* `Load.extends_page` — **the templates of all bundles stay**, unless a name is pushed once more or is a segment
  of a namespace.
-/

namespace ScriptHost.Pages

variable {α : Type}

/-! ## Pages -/

/-- A value of a page.  Objects are told apart by their marks, and keep them when their properties change. -/
inductive Item (α : Type) where
  | primitive (value : α) (truthy : Bool)
  | object (mark : α) (properties : List (String × Item α))

/-- A value without its properties. -/
inductive Content (α : Type) where
  | primitive (value : α) (truthy : Bool)
  | object (mark : α)
deriving DecidableEq

/-- Whether something is an object. -/
def Content.IsObject (c : Content α) : Prop := ∃ mark, c = .object mark

instance (c : Content α) : Decidable c.IsObject :=
  match c with
  | .object mark => .isTrue ⟨mark, rfl⟩
  | .primitive _ _ => .isFalse fun h => by
    obtain ⟨mark, hmark⟩ := h
    cases hmark

theorem Content.isObject_getD (fresh : α) {found : Option (Content α)} (h : ∀ c, found = some c → c.IsObject) :
    (found.getD (.object fresh)).IsObject := by
  cases found with
  | none => exact ⟨fresh, rfl⟩
  | some c => exact h c rfl

namespace Item

def content : Item α → Content α
  | primitive value truthy => .primitive value truthy
  | object mark _ => .object mark

/-- Whether `||` keeps a value. -/
def isTruthy : Item α → Bool
  | primitive _ truthy => truthy
  | object _ _ => true

/-- A property of an object. -/
def property? : Item α → String → Option (Item α)
  | primitive _ _, _ => none
  | object _ properties, key => properties.lookup key

/-- Properties of which one has been assigned. -/
def assignProperty (key : String) (value : Item α) : List (String × Item α) → List (String × Item α)
  | [] => [(key, value)]
  | (k, v) :: rest => if k = key then (key, value) :: rest else (k, v) :: assignProperty key value rest

/-- An object of which a property has been assigned. -/
def withProperty? : Item α → String → Item α → Option (Item α)
  | primitive _ _, _, _ => none
  | object mark properties, key, value => some (object mark (assignProperty key value properties))

/-- What a path of property names leads to, by way of objects. -/
def at? (page : Item α) : List String → Option (Item α)
  | [] => some page
  | key :: path => (page.property? key).bind (·.at? path)

/-- What stands at a path. -/
def content? (page : Item α) (path : List String) : Option (Content α) := (page.at? path).map content

/-- Whether a value is an object, and so are all that it leads to. -/
def OnlyObjects (item : Item α) : Prop := ∀ path c, item.content? path = some c → c.IsObject

/-- Whether an object stands at a path. -/
def HasObject (page : Item α) (path : List String) : Prop := ∃ mark, page.content? path = some (.object mark)

/-- Reads a property of the object at a path; there may be none of that name.  Fails if there is no object. -/
def read? (page : Item α) (base : List String) (key : String) : Option (Option (Item α)) := do
  match ← page.at? base with
  | primitive _ _ => none
  | object _ properties => return properties.lookup key

/-- Assigns a property of the object at a path.  Fails if there is no object. -/
def assign? (page : Item α) (base : List String) (key : String) (value : Item α) : Option (Item α) :=
  match base with
  | [] => page.withProperty? key value
  | k :: base => do
    let inner ← page.property? k
    page.withProperty? k (← inner.assign? base key value)

/-! ### Reading and assigning -/

theorem lookup_assignProperty (key : String) (value : Item α) (properties : List (String × Item α)) (k : String) :
    (assignProperty key value properties).lookup k = if k = key then some value else properties.lookup k := by
  have hcons (key : String) (v : Item α) (rest : List (String × Item α)) :
      ((key, v) :: rest).lookup k = if k = key then some v else rest.lookup k := by
    rw [List.lookup_cons]
    by_cases h : k = key
    · rw [if_pos h, h, beq_self_eq_true]
    · rw [if_neg h, beq_eq_false_iff_ne.2 h]
  induction properties with
  | nil => exact hcons key value []
  | cons property rest ih =>
    obtain ⟨k', v⟩ := property
    rw [assignProperty]
    by_cases hk : k' = key
    · rw [if_pos hk, hcons, hcons, hk]
      by_cases h : k = key
      · rw [if_pos h, if_pos h]
      · rw [if_neg h, if_neg h, if_neg h]
    · rw [if_neg hk, hcons, hcons, ih]
      by_cases h : k = k'
      · rw [if_pos h, if_pos h, if_neg (h ▸ hk)]
      · rw [if_neg h, if_neg h]

theorem withProperty?_eq_some {item item' : Item α} {key : String} {value : Item α}
    (h : item.withProperty? key value = some item') : item'.content = item.content
      ∧ ∀ k, item'.property? k = if k = key then some value else item.property? k := by
  cases item with
  | primitive v truthy => cases h
  | object mark properties =>
    cases h
    exact ⟨rfl, lookup_assignProperty key value properties⟩

theorem content?_cons (page : Item α) (key : String) (path : List String) :
    page.content? (key :: path) = (page.property? key).bind (·.content? path) := by
  rw [content?, at?, Option.map_bind]
  rfl

/-- Whether a value is an object that has no properties. -/
def isEmptyObject : Item α → Bool
  | object _ [] => true
  | _ => false

theorem onlyObjects_of_isEmptyObject {item : Item α} (h : item.isEmptyObject) : item.OnlyObjects := by
  intro path c hc
  match item, path, h, hc with
  | object mark [], [], _, hc =>
    cases hc
    exact ⟨mark, rfl⟩

theorem content?_append (page : Item α) (path below : List String) :
    page.content? (path ++ below) = (page.at? path).bind (·.content? below) := by
  induction path generalizing page with
  | nil => rfl
  | cons key path ih =>
    rw [List.cons_append, content?_cons, at?, Option.bind_assoc]
    exact Option.bind_congr fun item _ => ih item

/-- Nothing is below nothing. -/
theorem content?_of_prefix {page : Item α} {path longer : List String} (h : path <+: longer)
    (hpath : page.content? path = none) : page.content? longer = none := by
  obtain ⟨below, rfl⟩ := h
  rw [content?_append, Option.map_eq_none_iff.1 hpath]
  rfl

/-- A property of an object can be read, whether it is there or not. -/
theorem read?_eq {page : Item α} {base : List String} (h : page.HasObject base)
    (key : String) : page.read? base key = some (page.at? (base ++ [key])) := by
  induction base generalizing page with
  | nil =>
    obtain ⟨mark, hmark⟩ := h
    cases page with
    | primitive value truthy => cases hmark
    | object mark properties =>
      rw [List.nil_append, at?, property?]
      exact congrArg some (Option.bind_fun_some _).symm
  | cons k base ih =>
    rw [HasObject, content?_cons] at h
    rw [List.cons_append, at?, read?, at?]
    cases hk : page.property? k with
    | none =>
      obtain ⟨mark, hmark⟩ := h
      rw [hk] at hmark
      cases hmark
    | some item =>
      rw [hk] at h
      exact ih h

/-- A property of an object can be assigned. -/
theorem exists_assign? {page : Item α} {base : List String} (h : page.HasObject base)
    (key : String) (value : Item α) : ∃ page', page.assign? base key value = some page' := by
  obtain ⟨mark, hmark⟩ := h
  induction base generalizing page with
  | nil =>
    cases page with
    | primitive v truthy => cases hmark
    | object mark properties => exact ⟨_, rfl⟩
  | cons k base ih =>
    rw [content?_cons] at hmark
    obtain ⟨item, hk, hitem⟩ := Option.bind_eq_some_iff.1 hmark
    obtain ⟨item', hassign⟩ := ih hitem
    rw [assign?, hk, Option.bind_eq_bind, Option.bind_some, hassign, Option.bind_some]
    cases page with
    | primitive v truthy => cases hk
    | object mark properties => exact ⟨_, rfl⟩

/-- An assignment changes what stands at and below its path, and nothing else. -/
theorem content?_assign? {page page' : Item α} {base : List String} {key : String} {value : Item α}
    (h : page.assign? base key value = some page') :
    (∀ below, page'.content? (base ++ key :: below) = value.content? below)
      ∧ ∀ path, ¬base ++ [key] <+: path → page'.content? path = page.content? path := by
  induction base generalizing page page' with
  | nil =>
    obtain ⟨hcontent, hproperty⟩ := withProperty?_eq_some h
    constructor
    · intro below
      rw [List.nil_append, content?_cons, hproperty, if_pos rfl]
      rfl
    · intro path hpath
      cases path with
      | nil => exact congrArg some hcontent
      | cons k path =>
        have hne : k ≠ key := by
          rintro rfl
          exact hpath ⟨path, rfl⟩
        rw [content?_cons, content?_cons, hproperty, if_neg hne]
  | cons k base ih =>
    rw [assign?] at h
    obtain ⟨inner, hk, hinner⟩ := Option.bind_eq_some_iff.1 h
    obtain ⟨inner', hassign, hwith⟩ := Option.bind_eq_some_iff.1 hinner
    obtain ⟨hcontent, hproperty⟩ := withProperty?_eq_some hwith
    obtain ⟨hbelow, hother⟩ := ih hassign
    constructor
    · intro below
      rw [List.cons_append, content?_cons, hproperty, if_pos rfl]
      exact hbelow below
    · intro path hpath
      cases path with
      | nil => exact congrArg some hcontent
      | cons k' path =>
        rw [content?_cons, content?_cons, hproperty]
        by_cases heq : k' = k
        · subst heq
          rw [if_pos rfl, hk]
          apply hother path
          rintro ⟨more, rfl⟩
          exact hpath ⟨more, rfl⟩
        · rw [if_neg heq]

end Item

/-! ## Programs -/

/-- The text of a path of property names. -/
def pathText (path : List String) : String := String.ofList (dotted (path.map String.toList))

/-- The statements of a bundle.  The code of an entry is any expression; it comes with the value it has. -/
inductive Statement (α : Type) where
  | guard (base : List String) (name : String)
  | entry (base : List String) (name code : String) (value : Item α)

namespace Statement

/-- How a statement is written. -/
def text : Statement α → String
  | guard base name => "global." ++ pathText (base ++ [name]) ++ " = global." ++ pathText (base ++ [name])
    ++ " || \x7b\x7d;\n"
  | entry base name code _ => "global." ++ pathText base ++ "[\"" ++ quote name ++ "\"] = " ++ code ++ ";\n"

/-- The value of `found || {}`. -/
def orNew (fresh : α) : Option (Item α) → Item α
  | some item => if item.isTruthy then item else .object fresh []
  | none => .object fresh []

/-- What a statement does to a page; new objects have the mark `fresh`.  It fails where it would read or assign
a property of something that is no object. -/
def run? (fresh : α) (page : Item α) : Statement α → Option (Item α)
  | guard base name => do
    let found ← page.read? base name
    page.assign? base name (orNew fresh found)
  | entry base name _ value => page.assign? base name value

/-- The guards of segments, behind segments that have been guarded. -/
def guards (base : List String) : List String → List (Statement α)
  | [] => []
  | name :: rest => guard base name :: guards (base ++ [name]) rest

/-- An object is kept, and nothing is replaced by an empty object. -/
theorem content?_orNew (fresh : α) {found : Option (Item α)} (h : ∀ c, found.map Item.content = some c → c.IsObject)
    (below : List String) : (orNew fresh found).content? below
      = if below = [] then some ((found.map Item.content).getD (.object fresh)) else found.bind (·.content? below) := by
  cases found with
  | none => cases below <;> rfl
  | some item => cases item with
    | primitive value truthy =>
      obtain ⟨mark, hmark⟩ := h _ rfl
      cases hmark
    | object mark properties => cases below <;> rfl

/-- A guard makes sure that there is an object. -/
theorem run?_guard (fresh : α) {page : Item α} {base : List String} {name : String}
    (hbase : page.HasObject base)
    (hname : ∀ c, page.content? (base ++ [name]) = some c → c.IsObject) :
    ∃ page', (guard base name).run? fresh page = some page'
      ∧ page'.HasObject (base ++ [name])
      ∧ ∀ path, page'.content? path
        = if path = base ++ [name] then some ((page.content? path).getD (.object fresh)) else page.content? path := by
  obtain ⟨page', hassign⟩ := Item.exists_assign? hbase name (orNew fresh (page.at? (base ++ [name])))
  have hrun : (guard base name).run? fresh page = some page' := by
    rw [run?, Item.read?_eq hbase]
    exact hassign
  have hvalue : ∀ below, (orNew fresh (page.at? (base ++ [name]))).content? below
      = if below = [] then some ((page.content? (base ++ [name])).getD (.object fresh))
        else page.content? (base ++ [name] ++ below) := by
    intro below
    rw [content?_orNew fresh hname, ← Item.content?_append]
    rfl
  obtain ⟨hbelow, hother⟩ := Item.content?_assign? hassign
  have hall : ∀ path, page'.content? path
      = if path = base ++ [name] then some ((page.content? path).getD (.object fresh)) else page.content? path := by
    intro path
    by_cases hpath : base ++ [name] <+: path
    · obtain ⟨below, rfl⟩ := hpath
      rw [← List.append_cons, hbelow, hvalue, List.append_cons base name below]
      by_cases hnil : below = []
      · rw [if_pos hnil, hnil, List.append_nil, if_pos rfl]
      · have hne : base ++ [name] ++ below ≠ base ++ [name] := by
          intro h
          exact hnil (List.append_right_eq_self.1 h)
        rw [if_neg hnil, if_neg hne]
    · rw [hother path hpath, if_neg]
      rintro rfl
      exact hpath (List.prefix_rfl)
  refine ⟨page', hrun, ?_, hall⟩
  rw [Item.HasObject, hall, if_pos rfl]
  obtain ⟨mark, hmark⟩ := Content.isObject_getD fresh hname
  exact ⟨mark, congrArg some hmark⟩

end Statement

/-- A page in which a path leads by way of objects, as far as it leads. -/
def Ready (page : Item α) (path : List String) : Prop :=
  ∀ start, start <+: path → ∀ c, page.content? start = some c → c.IsObject

instance (page : Item α) (path : List String) : Decidable (Ready page path) :=
  decidable_of_iff (∀ start ∈ path.inits, ∀ c ∈ page.content? start, c.IsObject) (by
    simp only [List.mem_inits, Option.mem_def, Ready])

theorem Item.OnlyObjects.ready {page : Item α} (h : page.OnlyObjects) (path : List String) : Ready page path :=
  fun start _ => h start

/-- A program runs to its end, or fails. -/
def runAll? (fresh : α) (program : List (Statement α)) (page : Item α) : Option (Item α) :=
  program.foldlM (fun page statement => statement.run? fresh page) page

theorem runAll?_cons (fresh : α) (statement : Statement α) (program : List (Statement α)) (page : Item α) :
    runAll? fresh (statement :: program) page = (statement.run? fresh page).bind (runAll? fresh program) := rfl

theorem runAll?_append (fresh : α) (first second : List (Statement α)) (page : Item α) :
    runAll? fresh (first ++ second) page = (runAll? fresh first page).bind (runAll? fresh second) :=
  List.foldlM_append

/-- Guards make sure that there are objects all the way. -/
theorem runAll?_guards (fresh : α) {page : Item α} {base rest : List String}
    (hbase : page.HasObject base) (hready : Ready page (base ++ rest)) :
    ∃ page', runAll? fresh (Statement.guards base rest) page = some page'
      ∧ page'.HasObject (base ++ rest)
      ∧ ∀ path, page'.content? path
        = if path <+: base ++ rest then some ((page.content? path).getD (.object fresh)) else page.content? path := by
  induction rest generalizing page base with
  | nil =>
    rw [List.append_nil]
    refine ⟨page, rfl, hbase, ?_⟩
    intro path
    split
    · next hpath =>
      cases hc : page.content? path with
      | none =>
        obtain ⟨mark, hmark⟩ := hbase
        rw [Item.content?_of_prefix hpath hc] at hmark
        cases hmark
      | some c => rfl
    · rfl
  | cons name rest ih =>
    rw [List.append_cons] at hready ⊢
    have hname : base ++ [name] <+: base ++ [name] ++ rest := List.prefix_append _ _
    obtain ⟨page₁, hrun, hobject, hall₁⟩ := Statement.run?_guard fresh hbase (hready _ hname)
    have hready₁ : Ready page₁ (base ++ [name] ++ rest) := by
      intro start hstart c hc
      rw [hall₁] at hc
      split at hc
      · next heq =>
        subst heq
        cases hc
        exact Content.isObject_getD fresh (hready _ hname)
      · exact hready _ hstart _ hc
    obtain ⟨page', hrest, hend, hall⟩ := ih hobject hready₁
    refine ⟨page', ?_, hend, ?_⟩
    · rw [Statement.guards, runAll?_cons, hrun]
      exact hrest
    · intro path
      rw [hall, hall₁]
      by_cases heq : path = base ++ [name]
      · rw [if_pos heq, heq, if_pos hname, if_pos hname]
        rfl
      · rw [if_neg heq]

/-! ## Bundles that are loaded -/

/-- What is pushed to a bundle: a name, and code with its value. -/
structure Pushed (α : Type) where
  name : String
  code : String
  value : Item α

/-- A statement for each template that is pushed. -/
def entriesOf (base : List String) (entries : List (Pushed α)) : List (Statement α) :=
  entries.map fun e => .entry base e.name e.code e.value

theorem append_prefix_append_cons {base below : List String} {name other : String} :
    base ++ [name] <+: base ++ other :: below ↔ name = other := by
  rw [List.prefix_append_right_inj, List.cons_prefix_cons]
  exact and_iff_left List.nil_prefix

/-- No property of an object is on the way to it. -/
theorem not_append_start {base path : List String} (h : path <+: base) (name : String) : ¬base ++ [name] <+: path := by
  intro hname
  have hlength := (hname.trans h).length_le
  rw [List.length_append, List.length_singleton] at hlength
  omega

/-- Each name has the last value that is pushed for it, and nothing else changes. -/
theorem runAll?_entries (fresh : α) {page : Item α} {base : List String} (hbase : page.HasObject base)
    (entries : List (Pushed α)) : ∃ page', runAll? fresh (entriesOf base entries) page = some page'
      ∧ (∀ older e newer, entries = older ++ e :: newer → (∀ e' ∈ newer, e'.name ≠ e.name) →
        ∀ below, page'.content? (base ++ e.name :: below) = e.value.content? below)
      ∧ ∀ path, (∀ e ∈ entries, ¬base ++ [e.name] <+: path) → page'.content? path = page.content? path := by
  induction entries generalizing page with
  | nil =>
    refine ⟨page, rfl, ?_, fun _ _ => rfl⟩
    intro older e newer hentries
    cases older <;> cases hentries
  | cons first rest ih =>
    obtain ⟨page₁, hassign⟩ := Item.exists_assign? hbase first.name first.value
    obtain ⟨hbelow, hother⟩ := Item.content?_assign? hassign
    have hbase₁ : page₁.HasObject base := by
      rw [Item.HasObject, hother base (not_append_start List.prefix_rfl _)]
      exact hbase
    obtain ⟨page', hrest, hpushed, hkept⟩ := ih hbase₁
    refine ⟨page', ?_, ?_, ?_⟩
    · rw [entriesOf, List.map_cons, runAll?_cons, Statement.run?, hassign]
      exact hrest
    · intro older e newer hentries hnewer below
      cases older with
      | nil =>
        cases hentries
        rw [hkept, hbelow]
        intro e' he' hstarts
        exact hnewer e' he' (append_prefix_append_cons.1 hstarts)
      | cons _ older =>
        cases hentries
        exact hpushed older e newer rfl hnewer below
    · intro path hpath
      obtain ⟨hfirst, hrest⟩ := List.forall_mem_cons.1 hpath
      rw [hkept path hrest, hother path hfirst]

/-- A bundle that is loaded, with the templates that are pushed to it. -/
structure Load (α : Type) where
  bundle : Bundle
  accepted : ∃ text, Bundle.new text = .ok bundle
  entries : List (Pushed α)

namespace Load

/-- The segments of the namespace. -/
def path (load : Load α) : List String := (load.bundle.ns.toList.splitOn '.').map String.ofList

/-- The complete text of the bundle. -/
def text (load : Load α) : String := (load.bundle.pushAll (load.entries.map fun e => (e.name, e.code))).finish

/-- The statements of the bundle. -/
def program (load : Load α) : List (Statement α) := Statement.guards [] load.path ++ entriesOf load.path load.entries

/-- Loads a bundle. -/
def run? (fresh : α) (page : Item α) (load : Load α) : Option (Item α) := runAll? fresh load.program page

theorem map_text_guards (base rest : List (List Char)) :
    (Statement.guards (base.map String.ofList) (rest.map String.ofList) : List (Statement α)).map Statement.text
      = rest.inits.tail.map fun p => Bundle.guardLine (String.ofList (dotted (base ++ p))) := by
  have hchars (path : List (List Char)) : (path.map String.ofList).map String.toList = path := by
    simp [Function.comp_def]
  induction rest generalizing base with
  | nil => rfl
  | cons segment rest ih =>
    have hstep : base.map String.ofList ++ [String.ofList segment] = (base ++ [segment]).map String.ofList := by
      rw [List.map_append, List.map_singleton]
    rw [List.map_cons, Statement.guards, List.map_cons, Bundle.inits_tail_cons, hstep, ih]
    congr 1
    · rw [Statement.text, hstep, pathText, hchars]
      rfl
    · simp only [List.append_assoc, List.singleton_append]

/-- The text of a bundle is that of its statements, inside a function. -/
theorem text_eq (load : Load α) : load.text
    = "(function(global) \x7b\n" ++ String.join (load.program.map Statement.text) ++ "\n\x7d)(this);" := by
  obtain ⟨source, hnew⟩ := load.accepted
  obtain ⟨-, hbundle⟩ := Bundle.new_eq_ok.1 hnew
  have hns : pathText load.path = load.bundle.ns := by
    have hchars : load.path.map String.toList = load.bundle.ns.toList.splitOn '.' := by
      simp [path, Function.comp_def]
    rw [pathText, hchars, dotted_splitOn, String.ofList_toList]
  have hentries : (entriesOf load.path load.entries).map Statement.text
      = (load.entries.map fun e => (e.name, e.code)).map fun e => Bundle.entry load.bundle.ns e.1 e.2 := by
    rw [entriesOf, List.map_map, List.map_map]
    apply List.map_congr_left
    intro e _
    rw [Function.comp_apply, Statement.text, hns]
    rfl
  have hguards : (Statement.guards [] load.path : List (Statement α)).map Statement.text
      = (prefixesOf load.bundle.ns.toList).map fun p => Bundle.guardLine (String.ofList p) := by
    rw [prefixesOf, List.map_map]
    exact map_text_guards [] _
  have hbody : load.bundle.body
      = String.join ((Statement.guards [] load.path : List (Statement α)).map Statement.text) := by
    rw [hguards, congrArg Bundle.ns hbundle]
    exact congrArg Bundle.body hbundle
  rw [text, Bundle.pushAll_eq, program, List.map_append, hentries, String.join_append, ← hbody]
  rfl

/-- What a bundle does to a page. -/
structure Extends (fresh : α) (load : Load α) (page page' : Item α) : Prop where
  /-- The namespace is there, and the objects on the way to it are those that were there, or new ones. -/
  onTheWay : ∀ path, path <+: load.path → page'.content? path = some ((page.content? path).getD (.object fresh))
  hasObject : page'.HasObject load.path
  /-- Each name has the last value that was pushed for it. -/
  pushed : ∀ older e newer, load.entries = older ++ e :: newer → (∀ e' ∈ newer, e'.name ≠ e.name) →
    ∀ below, page'.content? (load.path ++ e.name :: below) = e.value.content? below
  kept : ∀ path, ¬path <+: load.path → (∀ e ∈ load.entries, ¬load.path ++ [e.name] <+: path) →
    page'.content? path = page.content? path

/-- A bundle runs on every page that is ready for it. -/
theorem exists_run (fresh : α) (load : Load α) {page : Item α} (h : Ready page load.path) :
    ∃ page', load.run? fresh page = some page' ∧ load.Extends fresh page page' := by
  have hglobal : page.HasObject [] := by
    obtain ⟨mark, hmark⟩ := h [] List.nil_prefix _ rfl
    exact ⟨mark, congrArg some hmark⟩
  have hready : Ready page ([] ++ load.path) := h
  obtain ⟨page₁, hguards, hobject, hall⟩ := runAll?_guards fresh hglobal hready
  obtain ⟨page', hentries, hpushed, hkept⟩ := runAll?_entries fresh hobject load.entries
  rw [List.nil_append] at hobject hpushed hkept hentries
  have honTheWay : ∀ path, path <+: load.path → page'.content? path = page₁.content? path := by
    intro path hpath
    exact hkept path fun e _ => not_append_start hpath e.name
  refine ⟨page', ?_, ?_, ?_, hpushed, ?_⟩
  · rw [run?, program, runAll?_append, hguards]
    exact hentries
  · intro path hpath
    rw [honTheWay path hpath, hall, List.nil_append, if_pos hpath]
  · rw [Item.HasObject, honTheWay _ List.prefix_rfl]
    exact hobject
  · intro path hpath hnames
    rw [hkept path hnames, hall, List.nil_append, if_neg hpath]

/-- What stands on a page stays, unless something is pushed for it or on the way to it. -/
theorem Extends.stays {fresh : α} {load : Load α} {page page' : Item α} (h : load.Extends fresh page page')
    {path : List String} {c : Content α} (hc : page.content? path = some c)
    (hnames : ∀ e ∈ load.entries, ¬load.path ++ [e.name] <+: path) : page'.content? path = some c := by
  by_cases hpath : path <+: load.path
  · rw [h.onTheWay path hpath, hc]
    rfl
  · rw [h.kept path hpath hnames, hc]

/-! ### Several bundles -/

/-- Bundles that are loaded one after the other. -/
def runEach? (fresh : α) (loads : List (Load α)) (page : Item α) : Option (Item α) :=
  loads.foldlM (run? fresh) page

/-- Bundles each of which finds a page that is ready for it. -/
def Admitted (fresh : α) : List (Load α) → Item α → Prop
  | [], _ => True
  | load :: rest, page => Ready page load.path ∧ ∀ page', load.run? fresh page = some page' → Admitted fresh rest page'

/-- What stands on a page stays while bundles are loaded, unless one of them pushes something for it or on the
way to it. -/
theorem runEach?_stays {fresh : α} {loads : List (Load α)} {page : Item α} (h : Admitted fresh loads page) :
    ∃ page', runEach? fresh loads page = some page' ∧ ∀ path c, page.content? path = some c →
      (∀ load ∈ loads, ∀ e ∈ load.entries, ¬load.path ++ [e.name] <+: path) → page'.content? path = some c := by
  induction loads generalizing page with
  | nil => exact ⟨page, rfl, fun _ _ hc _ => hc⟩
  | cons load rest ih =>
    obtain ⟨hready, hrest⟩ := h
    obtain ⟨page₁, hrun, hextends⟩ := load.exists_run fresh hready
    obtain ⟨page', hruns, hstays⟩ := ih (hrest page₁ hrun)
    refine ⟨page', ?_, ?_⟩
    · rw [runEach?, List.foldlM_cons, hrun]
      exact hruns
    · intro path c hc hnames
      obtain ⟨hfirst, hnames⟩ := List.forall_mem_cons.1 hnames
      exact hstays path c (hextends.stays hc hfirst) hnames

/-- The last value that a bundle pushes for a name stays, unless a later bundle pushes something for the name or
on the way to it. -/
theorem runEach?_pushed {fresh : α} {before after : List (Load α)} {load : Load α} {page page' : Item α}
    (h : Admitted fresh (before ++ load :: after) page)
    (hrun : runEach? fresh (before ++ load :: after) page = some page') {older newer : List (Pushed α)}
    {e : Pushed α} (hentries : load.entries = older ++ e :: newer) (hnewer : ∀ e' ∈ newer, e'.name ≠ e.name)
    {below : List String} {c : Content α} (hc : e.value.content? below = some c)
    (hafter : ∀ l ∈ after, ∀ e' ∈ l.entries, ¬l.path ++ [e'.name] <+: load.path ++ e.name :: below) :
    page'.content? (load.path ++ e.name :: below) = some c := by
  induction before generalizing page with
  | nil =>
    obtain ⟨hready, hrest⟩ := h
    obtain ⟨page₁, hload, hextends⟩ := load.exists_run fresh hready
    obtain ⟨page₂, hruns, hstays⟩ := runEach?_stays (hrest page₁ hload)
    rw [List.nil_append, runEach?, List.foldlM_cons, hload] at hrun
    cases hruns.symm.trans hrun
    apply hstays _ _ _ hafter
    rw [hextends.pushed older e newer hentries hnewer, hc]
  | cons first before ih =>
    obtain ⟨hready, hrest⟩ := h
    obtain ⟨page₁, hfirst, -⟩ := first.exists_run fresh hready
    rw [List.cons_append, runEach?, List.foldlM_cons, hfirst] at hrun
    exact ih (hrest page₁ hfirst) hrun

/-! ### Values that are objects -/

/-- What is pushed for a name is pushed a last time. -/
theorem exists_last {entries : List (Pushed α)} {name : String} (h : ∃ e ∈ entries, e.name = name) :
    ∃ older last newer, entries = older ++ last :: newer ∧ last.name = name ∧ ∀ e' ∈ newer, e'.name ≠ last.name := by
  induction entries with
  | nil =>
    obtain ⟨e, he, -⟩ := h
    cases he
  | cons first rest ih =>
    by_cases hrest : ∃ e ∈ rest, e.name = name
    · obtain ⟨older, last, newer, rfl, hlast⟩ := ih hrest
      exact ⟨first :: older, last, newer, rfl, hlast⟩
    · obtain ⟨e, he, rfl⟩ := h
      cases List.mem_cons.1 he with
      | inl hfirst =>
        subst hfirst
        exact ⟨[], e, rest, rfl, rfl, fun e' he' hname => hrest ⟨e', he', hname⟩⟩
      | inr hmem => exact absurd ⟨e, hmem, rfl⟩ hrest

/-- A page stays ready while what is pushed is made of objects. -/
theorem Extends.ready {fresh : α} {load : Load α} {page page' : Item α} (h : load.Extends fresh page page')
    (hload : Ready page load.path) (hvalues : ∀ e ∈ load.entries, e.value.OnlyObjects) {path : List String}
    (hpath : Ready page path) : Ready page' path := by
  intro start hstart c hc
  by_cases hway : start <+: load.path
  · rw [h.onTheWay start hway] at hc
    cases hc
    exact Content.isObject_getD fresh (hload start hway)
  by_cases hnames : ∃ e ∈ load.entries, load.path ++ [e.name] <+: start
  · obtain ⟨e, he, hstarts⟩ := hnames
    obtain ⟨older, last, newer, hentries, hname, hnewer⟩ := exists_last ⟨e, he, rfl⟩
    obtain ⟨below, rfl⟩ := hstarts
    rw [← List.append_cons, ← hname, h.pushed older last newer hentries hnewer] at hc
    have hlast : last ∈ load.entries := by
      rw [hentries]
      exact List.mem_append_right _ List.mem_cons_self
    exact hvalues last hlast below c hc
  · rw [h.kept start hway fun e he hstarts => hnames ⟨e, he, hstarts⟩] at hc
    exact hpath start hstart c hc

/-- A page that is ready for all bundles stays so while what they push is made of objects. -/
theorem admitted_of_ready (fresh : α) {loads : List (Load α)} {page : Item α} (h : ∀ load ∈ loads, Ready page load.path)
    (hvalues : ∀ load ∈ loads, ∀ e ∈ load.entries, e.value.OnlyObjects) : Admitted fresh loads page := by
  induction loads generalizing page with
  | nil => trivial
  | cons load rest ih =>
    obtain ⟨hload, hrest⟩ := List.forall_mem_cons.1 h
    obtain ⟨hfirst, hvalues⟩ := List.forall_mem_cons.1 hvalues
    refine ⟨hload, ?_⟩
    intro page' hrun
    obtain ⟨page₁, hrun₁, hextends⟩ := load.exists_run fresh hload
    cases hrun₁.symm.trans hrun
    exact ih (fun l hl => hextends.ready hload hfirst (hrest l hl)) hvalues

/-! ### Nothing is destroyed -/

/-- A bundle has the text of its program.  On a page that is ready for it the program never reads or assigns a
property of anything but an object; at its end the namespace is there, each name in it has the last value that was
pushed for it, and all else on the page is as before.  When bundles are loaded one after the other, each on a page
that is ready for it, then what was on the page and what was pushed stays, unless a later bundle pushes something for
that very path, or for a path on the way to it. -/
theorem extends_page (fresh : α) :
    (∀ load : Load α, load.text
      = "(function(global) \x7b\n" ++ String.join (load.program.map Statement.text) ++ "\n\x7d)(this);")
    ∧ (∀ (load : Load α) (page : Item α), Ready page load.path →
      ∃ page', load.run? fresh page = some page' ∧ load.Extends fresh page page')
    ∧ ∀ (loads : List (Load α)) (page : Item α), Admitted fresh loads page →
      ∃ page', runEach? fresh loads page = some page'
        ∧ (∀ path c, page.content? path = some c →
          (∀ load ∈ loads, ∀ e ∈ load.entries, ¬load.path ++ [e.name] <+: path) → page'.content? path = some c)
        ∧ ∀ before load after, loads = before ++ load :: after →
          ∀ older e newer, load.entries = older ++ e :: newer → (∀ e' ∈ newer, e'.name ≠ e.name) →
          ∀ below c, e.value.content? below = some c →
          (∀ l ∈ after, ∀ e' ∈ l.entries, ¬l.path ++ [e'.name] <+: load.path ++ e.name :: below) →
          page'.content? (load.path ++ e.name :: below) = some c := by
  refine ⟨text_eq, fun load page h => load.exists_run fresh h, ?_⟩
  intro loads page h
  obtain ⟨page', hrun, hstays⟩ := runEach?_stays h
  refine ⟨page', hrun, hstays, ?_⟩
  rintro before load after rfl older e newer hentries hnewer below c hc hafter
  exact runEach?_pushed h hrun hentries hnewer hc hafter

/-- A bundle for a namespace whose segments are identifiers. -/
def ofNamespace (source : String) (h : ∀ s ∈ (Bundle.namespaceOf source).toList.splitOn '.', isIdentifier s)
    (entries : List (Pushed α)) : Load α :=
  ⟨_, ⟨source, Bundle.new_eq_ok.2 ⟨h, rfl⟩⟩, entries⟩

/-- A function of a template, with a mark. -/
def template (name mark : String) : Pushed String := ⟨name, "function(obj)\x7b\x7d", .object mark []⟩

/-- A bundle for a nested namespace. -/
def pair : Load String := ofNamespace "App.JST" (by decide +kernel) [template "a" "1", template "b" "2"]

/-- Bundles for namespaces that are equal, nested and apart. -/
def neighbours : List (Load String) :=
  [pair, ofNamespace "App" (by decide +kernel) [template "a" "3"],
    ofNamespace "App.JST" (by decide +kernel) [template "b" "4"],
    ofNamespace "" (by decide +kernel) [template "a" "5"]]

/-- A page with an object that is in use. -/
def pageInUse : Item String := .object "global" [("App", .object "application" [("title", .primitive "t" true)])]

theorem extends_page_neighbours :
    (∃ page', pair.run? "new" pageInUse = some page' ∧ page'.content? ["App"] = some (.object "application")
      ∧ page'.content? ["App", "JST"] = some (.object "new"))
    ∧ ∃ page', runEach? "new" neighbours pageInUse = some page'
      ∧ page'.content? ["App", "title"] = some (.primitive "t" true)
      ∧ page'.content? ["App", "JST", "a"] = some (.object "1") := by
  have hready : ∀ load ∈ neighbours, Ready pageInUse load.path := by decide +kernel
  have hvalues : ∀ load ∈ neighbours, ∀ e ∈ load.entries, e.value.isEmptyObject := by decide +kernel
  have hadmitted : Admitted "new" neighbours pageInUse := by
    apply admitted_of_ready "new" hready
    intro load hload e he
    exact Item.onlyObjects_of_isEmptyObject (hvalues load hload e he)
  obtain ⟨-, hload, hloads⟩ := extends_page "new"
  constructor
  · obtain ⟨page', hrun, hextends⟩ := hload pair pageInUse (hready pair List.mem_cons_self)
    exact ⟨page', hrun, hextends.onTheWay _ (by decide +kernel), hextends.onTheWay _ (by decide +kernel)⟩
  · obtain ⟨page', hrun, hstays, hpushed⟩ := hloads neighbours pageInUse hadmitted
    refine ⟨page', hrun, ?_, ?_⟩
    · exact hstays _ _ rfl (by decide +kernel)
    · exact hpushed [] _ _ rfl [] (template "a" "1") _ rfl (by decide +kernel) [] (.object "1") rfl (by decide +kernel)

/-- A bundle for a nested namespace, and then one with a template that has the name of its last segment. -/
def namesake : List (Load String) :=
  [ofNamespace "App.JST" (by decide +kernel) [template "x" "1"],
    ofNamespace "App" (by decide +kernel) [template "JST" "2"]]

/-- A template replaces a namespace of its name, with the templates in it. -/
theorem replaces_namesake : namesake.map path = [["App", "JST"], ["App"]]
    ∧ Admitted "new" namesake (.object "global" [])
    ∧ (runEach? "new" (namesake.take 1) (.object "global" [])).map (·.content? ["App", "JST", "x"])
      = some (some (.object "1"))
    ∧ (runEach? "new" namesake (.object "global" [])).map (·.content? ["App", "JST", "x"]) = some none := by
  have hready : ∀ load ∈ namesake, Ready (.object "global" []) load.path := by decide +kernel
  have hvalues : ∀ load ∈ namesake, ∀ e ∈ load.entries, e.value.isEmptyObject := by decide +kernel
  refine ⟨by decide +kernel, ?_, by decide +kernel, by decide +kernel⟩
  apply admitted_of_ready "new" hready
  intro load hload e he
  exact Item.onlyObjects_of_isEmptyObject (hvalues load hload e he)

end Load

end ScriptHost.Pages
