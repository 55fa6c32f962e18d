import ScriptHost.FileSystem

/-!
# What stands at the locations of a tree

A directory tree is seen here from outside: at every location there is nothing, a directory, or a file
with its bytes.  Putting a file where no directory is changes what stands at one location and nothing
else, and a file that was put where nothing was can be erased without a trace.

* `Tree.node?` — what stands at a location.
* `Tree.node?_put` — **a file that is put in place changes one location**.
* `Tree.erase_put` — **a new file that is erased leaves the tree as it was**.
-/

namespace ScriptHost.Tree

/-- What stands at a location. -/
inductive Node where
  | directory
  | file (bytes : List UInt8)
deriving DecidableEq

/-- A tree, without what is below it. -/
def node : Tree → Node
  | .file bytes => .file bytes
  | .directory _ => .directory

/-- What stands at a location, if anything does. -/
def node? (t : Tree) (location : List String) : Option Node := (t.get? location).map node

variable {t u v : Tree} {entries : List (String × Tree)} {name other : String}
  {location below : List String} {bytes : List UInt8}

/-! ## Entries -/

@[simp] theorem lookup_putEntry_self : (putEntry name u entries).lookup name = some u := by
  induction entries with
  | nil => simp [putEntry]
  | cons e rest ih =>
    obtain ⟨key, v⟩ := e
    unfold putEntry
    split
    · next h => simp [h]
    · next h => simp [List.lookup_cons, beq_eq_false_iff_ne.2 (Ne.symm h), ih]

theorem lookup_putEntry_of_ne (h : other ≠ name) :
    (putEntry name u entries).lookup other = entries.lookup other := by
  induction entries with
  | nil => simp [putEntry, List.lookup_cons, beq_eq_false_iff_ne.2 h]
  | cons e rest ih =>
    obtain ⟨key, v⟩ := e
    unfold putEntry
    split
    · next he => simp [List.lookup_cons, he, beq_eq_false_iff_ne.2 h]
    · simp [List.lookup_cons, ih]

@[simp] theorem putEntry_putEntry :
    putEntry name u (putEntry name v entries) = putEntry name u entries := by
  induction entries with
  | nil => simp [putEntry]
  | cons e rest ih =>
    by_cases h : e.1 = name
    · simp [putEntry, h]
    · simp [putEntry, h, ih]

theorem putEntry_of_lookup (h : entries.lookup name = some u) : putEntry name u entries = entries := by
  induction entries with
  | nil => simp at h
  | cons e rest ih =>
    obtain ⟨key, v⟩ := e
    rw [List.lookup_cons] at h
    by_cases he : key = name
    · simp_all [putEntry]
    · rw [beq_eq_false_iff_ne.2 (Ne.symm he)] at h
      simp [putEntry, he, ih h]

theorem eraseP_putEntry (h : entries.lookup name = none) :
    (putEntry name u entries).eraseP (·.1 == name) = entries := by
  induction entries with
  | nil => simp [putEntry]
  | cons e rest ih =>
    rw [List.lookup_eq_none_iff] at h
    have he : e.1 ≠ name := fun he => by simpa [he] using h e List.mem_cons_self
    have hrest : rest.lookup name = none :=
      List.lookup_eq_none_iff.2 fun p hp => h p (List.mem_cons_of_mem _ hp)
    simp [putEntry, he, ih hrest]

/-! ## Locations -/

@[simp] theorem get?_nil : t.get? [] = some t := by cases t <;> rfl

@[simp] theorem get?_file_cons : (Tree.file bytes).get? (name :: below) = none := rfl

theorem get?_directory_cons :
    (Tree.directory entries).get? (name :: below) = (entries.lookup name).bind (·.get? below) := by
  rw [get?]
  cases entries.lookup name <;> rfl

theorem get?_append : t.get? (location ++ below) = (t.get? location).bind (·.get? below) := by
  induction location generalizing t with
  | nil => simp
  | cons name location ih =>
    cases t with
    | file bytes => rfl
    | directory entries =>
      rw [List.cons_append, get?_directory_cons, get?_directory_cons, Option.bind_assoc]
      congr 1
      funext u
      exact ih

@[simp] theorem node?_nil : t.node? [] = some t.node := by simp [node?]

@[simp] theorem node?_file_cons : (Tree.file bytes).node? (name :: below) = none := rfl

theorem node?_directory_cons :
    (Tree.directory entries).node? (name :: below) = (entries.lookup name).bind (·.node? below) := by
  rw [node?, get?_directory_cons, Option.map_bind]
  rfl

theorem node?_eq_directory :
    t.node? location = some .directory ↔ ∃ entries, t.get? location = some (.directory entries) := by
  rw [node?]
  cases t.get? location with
  | none => simp
  | some u => cases u <;> simp [node]

theorem node?_eq_file : t.node? location = some (.file bytes) ↔ t.get? location = some (.file bytes) := by
  rw [node?]
  cases t.get? location with
  | none => simp
  | some u => cases u <;> simp [node]

/-- Nothing is below what is no directory. -/
theorem node?_eq_none_of_ne (h : t.node ≠ .directory) : t.node? (name :: below) = none := by
  cases t with
  | file bytes => rfl
  | directory entries => exact absurd rfl h

/-! ## Files in place -/

@[simp] theorem put_nil : put u [] t = u := by cases t <;> rfl

theorem put_cons_directory :
    put u (name :: below) (.directory entries) = .directory
      (putEntry name (put u below ((entries.lookup name).getD (.directory []))) entries) := rfl

@[simp] theorem put_put : put u location (put v location t) = put u location t := by
  induction location generalizing t with
  | nil => simp
  | cons name location ih =>
    cases t with
    | file bytes => simp [put, putEntry, ih]
    | directory entries => simp [put_cons_directory, ih]

/-- A file that is put into a directory, where no directory is, changes what stands there and nothing
else. -/
theorem node?_put (hparent : t.node? location = some .directory)
    (hplace : t.node? (location ++ [name]) ≠ some .directory) (l : List String) :
    (put (.file bytes) (location ++ [name]) t).node? l
      = if l = location ++ [name] then some (.file bytes) else t.node? l := by
  induction location generalizing t l with
  | nil =>
    obtain ⟨entries, ht⟩ := node?_eq_directory.1 hparent
    obtain rfl : t = .directory entries := by simpa using ht
    rw [List.nil_append, put_cons_directory, put_nil]
    cases l with
    | nil => simp [node]
    | cons n below =>
      rw [node?_directory_cons, node?_directory_cons]
      by_cases hn : n = name
      · subst hn
        cases below with
        | nil => simp [node]
        | cons m below =>
          -- neither the new file nor what stood in its place has anything below it
          have hold : (entries.lookup n).bind (·.node? (m :: below)) = none := by
            cases hu : entries.lookup n with
            | none => rfl
            | some u =>
              refine node?_eq_none_of_ne fun hdir => hplace ?_
              simp [node?_directory_cons, hu, hdir]
          simp [hold]
      · rw [lookup_putEntry_of_ne hn, if_neg (by simp [hn])]
  | cons n location ih =>
    cases t with
    | file bytes => simp at hparent
    | directory entries =>
      rw [node?_directory_cons] at hparent
      rw [List.cons_append, node?_directory_cons] at hplace
      cases hu : entries.lookup n with
      | none => simp [hu] at hparent
      | some u =>
        rw [hu, Option.bind_some] at hparent hplace
        rw [List.cons_append, put_cons_directory, hu, Option.getD_some]
        cases l with
        | nil => simp [node]
        | cons m below =>
          rw [node?_directory_cons, node?_directory_cons]
          by_cases hm : m = n
          · subst hm
            rw [lookup_putEntry_self, hu, Option.bind_some, Option.bind_some, ih hparent hplace below]
            simp
          · rw [lookup_putEntry_of_ne hm, if_neg (by simp [hm])]

/-! ## New files -/

/-- There is nothing at a location, and a directory for it. -/
def Vacant (t : Tree) (location : List String) : Prop :=
  ∃ directory entries name, location = directory ++ [name]
    ∧ t.get? directory = some (.directory entries) ∧ entries.lookup name = none

theorem Vacant.node?_eq_none (h : t.Vacant location) : t.node? location = none := by
  obtain ⟨directory, entries, name, rfl, hdirectory, hname⟩ := h
  simp [node?, get?_append, hdirectory, get?_directory_cons, hname]

theorem Vacant.node?_put (h : t.Vacant location) (l : List String) :
    (put (.file bytes) location t).node? l
      = if l = location then some (.file bytes) else t.node? l := by
  have hnone := h.node?_eq_none
  obtain ⟨directory, entries, name, rfl, hdirectory, hname⟩ := h
  exact Tree.node?_put (node?_eq_directory.2 ⟨_, hdirectory⟩) (by simp [hnone]) l

theorem erase_cons (h : below ≠ []) :
    erase (name :: below) (.directory entries) = match entries.lookup name with
      | none => .directory entries
      | some u => .directory (putEntry name (erase below u) entries) := by
  cases below with
  | nil => exact absurd rfl h
  | cons m below => rfl

/-- A new file that is erased again leaves the tree as it was. -/
theorem erase_put (h : t.Vacant location) : erase location (put u location t) = t := by
  obtain ⟨directory, entries, name, rfl, hdirectory, hname⟩ := h
  induction directory generalizing t with
  | nil =>
    obtain rfl : t = .directory entries := by simpa using hdirectory
    rw [List.nil_append, put_cons_directory, put_nil, erase, eraseP_putEntry hname]
  | cons n directory ih =>
    cases t with
    | file bytes => simp at hdirectory
    | directory es =>
      rw [get?_directory_cons] at hdirectory
      cases hn : es.lookup n with
      | none => simp [hn] at hdirectory
      | some v =>
        rw [hn, Option.bind_some] at hdirectory
        rw [List.cons_append, put_cons_directory, erase_cons (by simp), lookup_putEntry_self, hn]
        simp [ih hdirectory, putEntry_of_lookup hn]

end ScriptHost.Tree
