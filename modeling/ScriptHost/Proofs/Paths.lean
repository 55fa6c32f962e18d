import ScriptHost.Proofs.Trees
import Mathlib.Tactic.SplitIfs

/-!
# Where paths lead

The way of a path goes through directories only.  Where a path leads depends on which directories there
are, and on whether something stands at its end; files beside the way do not matter.

* `FileSystem.walk_of_directories` — **a way leads to the same location as long as there are the same
  directories**.
* `FileSystem.Place`, `FileSystem.target_ok` — the places in which a path would have a file put.
* `FileSystem.Place.locate` — a file in that place is what the path names.
* `FileSystem.locate_eq_resolve` — without links, the text of a path tells where it leads.
* `IsPlain`, `FileSystem.eq_of_resolve_plain` — paths without detours lead to one location each.
-/

namespace ScriptHost.FileSystem

open ScriptHost.Tree

variable {fs fs' : FileSystem} {at0 location directory : List String} {part last : List Char}
  {parts : List (List Char)} {path : String}

/-! ## Steps -/

theorem enter_directory {entries : List (String × Tree)}
    (h : fs.root.get? at0 = some (.directory entries)) :
    fs.enter at0 part =
      if isIdlePart part then .ok at0
      else if part = ['.', '.'] then .ok at0.dropLast
      else if (String.ofList part).utf8ByteSize > nameLimit then .error .invalidFilename
      else if (fs.root.node? (at0 ++ [String.ofList part])).isSome then
        .ok (at0 ++ [String.ofList part])
      else .error .notFound := by
  have hentry : fs.root.node? (at0 ++ [String.ofList part])
      = (entries.lookup (String.ofList part)).map Tree.node := by
    rw [node?, get?_append, h, Option.bind_some, get?_directory_cons]
    simp
  rw [enter, h, hentry, Option.isSome_map]

/-- Only a directory can be entered. -/
theorem directory_of_enter (h : fs.enter at0 part = .ok location) :
    fs.root.node? at0 = some .directory := by
  rw [node?_eq_directory]
  cases hget : fs.root.get? at0 with
  | none => simp [enter, hget] at h
  | some t => cases t with
    | file bytes => simp [enter, hget] at h
    | directory entries => exact ⟨entries, rfl⟩

/-- All directories of a file system are directories of another one. -/
def KeepsDirectories (fs fs' : FileSystem) : Prop :=
  ∀ l, fs.root.node? l = some .directory → fs'.root.node? l = some .directory

theorem enter_of_directories (hkeep : KeepsDirectories fs fs') (h : fs.enter at0 part = .ok location)
    (hlocation : fs'.root.node? location ≠ none) : fs'.enter at0 part = .ok location := by
  have hdirectory := directory_of_enter h
  obtain ⟨entries, hget⟩ := node?_eq_directory.1 hdirectory
  obtain ⟨entries', hget'⟩ := node?_eq_directory.1 (hkeep at0 hdirectory)
  rw [enter_directory hget] at h
  rw [enter_directory hget']
  split_ifs at h ⊢
  · exact h
  · exact h
  · exact h
  · next hnew _ =>
    cases h
    exact absurd (Option.not_isSome_iff_eq_none.1 hnew) hlocation

/-! ## Ways -/

theorem walk_nil : fs.walk at0 [] = .ok at0 := rfl

theorem walk_cons : fs.walk at0 (part :: parts) = fs.enter at0 part >>= fun l => fs.walk l parts := rfl

theorem walk_cons_ok : fs.walk at0 (part :: parts) = .ok location ↔
    ∃ l, fs.enter at0 part = .ok l ∧ fs.walk l parts = .ok location := by
  rw [walk_cons]
  cases fs.enter at0 part <;> simp [bind, Except.bind]

theorem walk_append_ok {more : List (List Char)} : fs.walk at0 (parts ++ more) = .ok location ↔
    ∃ l, fs.walk at0 parts = .ok l ∧ fs.walk l more = .ok location := by
  induction parts generalizing at0 with
  | nil => simp [walk_nil]
  | cons part parts ih =>
    simp only [List.cons_append, walk_cons_ok, ih]
    grind

theorem walk_singleton : fs.walk at0 [part] = fs.enter at0 part := by
  rw [walk_cons]
  cases fs.enter at0 part <;> rfl

/-- A way leads to the same location in every file system that has the same directories, if there is
something at its end. -/
theorem walk_of_directories (hkeep : KeepsDirectories fs fs') (h : fs.walk at0 parts = .ok location)
    (hlocation : fs'.root.node? location ≠ none) : fs'.walk at0 parts = .ok location := by
  induction parts generalizing at0 with
  | nil => exact h
  | cons part parts ih =>
    obtain ⟨l, hl, hrest⟩ := walk_cons_ok.1 h
    have hthere : fs'.root.node? l ≠ none := by
      cases parts with
      | nil =>
        obtain rfl : l = location := by simpa [walk_nil] using hrest
        exact hlocation
      | cons next parts =>
        -- the way goes on from here, so this is a directory
        obtain ⟨_, hnext, -⟩ := walk_cons_ok.1 hrest
        simp [hkeep l (directory_of_enter hnext)]
    exact walk_cons_ok.2 ⟨l, enter_of_directories hkeep hl hthere, ih hrest⟩

/-! ## Locations -/

theorem locate_eq_ok : fs.locate path = .ok location ↔ checkPath path = .ok ()
    ∧ fs.walk (fs.start path.toList) (splitAll '/' path.toList) = .ok location := by
  rw [locate]
  cases checkPath path <;> simp [bind, Except.bind]

/-- What a path names, it names in every file system that has the same directories, if it is there. -/
theorem locate_of_directories (hkeep : KeepsDirectories fs fs') (h : fs.locate path = .ok location)
    (hhere : fs'.here = fs.here) (hlocation : fs'.root.node? location ≠ none) :
    fs'.locate path = .ok location := by
  obtain ⟨hcheck, hwalk⟩ := locate_eq_ok.1 h
  have hstart : fs'.start path.toList = fs.start path.toList := by rw [start, start, hhere]
  exact locate_eq_ok.2 ⟨hcheck, hstart ▸ walk_of_directories hkeep hwalk hlocation⟩

/-- What a path names is read as it stands there. -/
theorem readBytes_eq_ok {bytes : List UInt8} : fs.readBytes path = .ok bytes ↔
    ∃ location, fs.locate path = .ok location ∧ fs.root.node? location = some (.file bytes) := by
  cases hlocate : fs.locate path with
  | error e => simp [readBytes, hlocate, bind, Except.bind]
  | ok location =>
    simp only [readBytes, hlocate, bind, Except.bind, Except.ok.injEq, exists_eq_left', node?_eq_file]
    split <;> simp_all

/-! ## Places -/

/-- A path leads to a directory and ends with a name for an entry of it. -/
structure Place (fs : FileSystem) (path : String) (directory : List String) (last : List Char) :
    Prop where
  checked : checkPath path = .ok ()
  way : ∃ parts, splitAll '/' path.toList = parts ++ [last]
    ∧ fs.walk (fs.start path.toList) parts = .ok directory
  isDirectory : fs.root.node? directory = some .directory
  not_idle : isIdlePart last = false
  not_up : last ≠ ['.', '.']
  short : (String.ofList last).utf8ByteSize ≤ nameLimit

theorem eq_of_dropEmpty {before : List (List Char)} (h : dropEmpty parts.reverse = last :: before)
    (hlast : parts.reverse.head? ≠ some []) : parts = before.reverse ++ [last] := by
  have hnone : dropEmpty parts.reverse = parts.reverse := by
    cases hparts : parts.reverse with
    | nil => rfl
    | cons part rest =>
      have hpart : part ≠ [] := by simpa [hparts] using hlast
      simp [dropEmpty, hpart]
  rw [← List.reverse_reverse parts, ← hnone, h, List.reverse_cons]

/-- A file is put where a path has a place for it, unless a directory is there. -/
theorem target_ok (h : fs.target path = .ok location) : ∃ directory last,
    fs.Place path directory last ∧ location = directory ++ [String.ofList last]
      ∧ fs.root.node? location ≠ some .directory := by
  cases hcheck : checkPath path with
  | error e => simp [target, hcheck, bind, Except.bind] at h
  | ok _ =>
    simp only [target, hcheck, bind, Except.bind] at h
    split at h
    · cases h
    · next last before hparts =>
      cases hway : fs.walk (fs.start path.toList) before.reverse with
      | error e => simp [hway] at h
      | ok directory =>
        simp only [hway] at h
        cases hdirectory : fs.enter directory [] with
        | error e => simp [hdirectory] at h
        | ok _ =>
          obtain ⟨entries, hget⟩ := node?_eq_directory.1 (directory_of_enter hdirectory)
          simp only [hdirectory] at h
          split_ifs at h with hspecial hslash
          · -- a path that ends with a slash is refused in every case
            split at h <;> cases h
          · simp only [Bool.or_eq_true, beq_iff_eq, not_or, Bool.not_eq_true] at hspecial
            have hplace (hshort : ¬ (String.ofList last).utf8ByteSize > nameLimit) :
                fs.Place path directory last :=
              ⟨hcheck, ⟨_, eq_of_dropEmpty hparts hslash, hway⟩, node?_eq_directory.2 ⟨_, hget⟩,
                hspecial.1, hspecial.2, by omega⟩
            rw [enter_directory hget, if_neg (by simp [hspecial.1]), if_neg hspecial.2] at h
            split_ifs at h with hlong hthere
            · dsimp only at h
              split at h
              · cases h
              · next hother =>
                cases h
                refine ⟨directory, last, hplace hlong, rfl, fun hdir => ?_⟩
                obtain ⟨entries', hget'⟩ := node?_eq_directory.1 hdir
                exact hother entries' hget'
            · cases h
              refine ⟨directory, last, hplace hlong, rfl, ?_⟩
              simp [Option.not_isSome_iff_eq_none.1 hthere]

/-- What is put in the place of a path is what the path names. -/
theorem Place.locate (h : fs.Place path directory last) (hkeep : KeepsDirectories fs fs')
    (hhere : fs'.here = fs.here) (hnew : fs'.root.node? (directory ++ [String.ofList last]) ≠ none) :
    fs'.locate path = .ok (directory ++ [String.ofList last]) := by
  obtain ⟨parts, hparts, hway⟩ := h.way
  have hstart : fs'.start path.toList = fs.start path.toList := by rw [start, start, hhere]
  have hwalk : fs'.walk (fs'.start path.toList) parts = .ok directory :=
    hstart ▸ walk_of_directories hkeep hway (by simp [hkeep directory h.isDirectory])
  have henter : fs'.enter directory last = .ok (directory ++ [String.ofList last]) := by
    obtain ⟨entries, hget⟩ := node?_eq_directory.1 (hkeep directory h.isDirectory)
    have hshort := h.short
    rw [enter_directory hget, if_neg (by simp [h.not_idle]), if_neg h.not_up, if_neg (by omega),
      if_pos (Option.isSome_iff_ne_none.2 hnew)]
  rw [locate_eq_ok, hparts, walk_append_ok]
  exact ⟨h.checked, directory, hwalk, by rw [walk_singleton, henter]⟩

end ScriptHost.FileSystem

/-! ## Paths as texts -/

namespace ScriptHost

/-- Where a part of a path leads from a location, as far as its text tells. -/
def followPart (at0 : List String) (part : List Char) : List String :=
  if isIdlePart part then at0
  else if part = ['.', '.'] then at0.dropLast
  else at0 ++ [String.ofList part]

/-- The location that a path is written for, whether or not there is anything. -/
def FileSystem.resolve (fs : FileSystem) (path : String) : List String :=
  (splitAll '/' path.toList).foldl followPart (fs.start path.toList)

namespace FileSystem

variable {fs fs' : FileSystem} {at0 location : List String} {part : List Char}
  {parts : List (List Char)} {path : String}

theorem enter_eq_followPart (h : fs.enter at0 part = .ok location) :
    location = followPart at0 part := by
  obtain ⟨entries, hget⟩ := Tree.node?_eq_directory.1 (directory_of_enter h)
  rw [enter_directory hget] at h
  unfold followPart
  split_ifs at h ⊢ <;> cases h <;> rfl

theorem walk_eq_foldl (h : fs.walk at0 parts = .ok location) :
    location = parts.foldl followPart at0 := by
  induction parts generalizing at0 with
  | nil => simpa [walk_nil] using h.symm
  | cons part parts ih =>
    obtain ⟨l, hl, hrest⟩ := walk_cons_ok.1 h
    rw [ih hrest, enter_eq_followPart hl, List.foldl_cons]

/-- A path that leads anywhere leads to the location that its text tells. -/
theorem locate_eq_resolve (h : fs.locate path = .ok location) : location = fs.resolve path :=
  walk_eq_foldl (locate_eq_ok.1 h).2

theorem resolve_congr (hhere : fs'.here = fs.here) : fs'.resolve path = fs.resolve path := by
  rw [resolve, resolve, start, start, hhere]

end FileSystem

/-! ## Plain paths -/

/-- A text is its parts with what is between them. -/
theorem intercalate_splitAll (sep : Char) (cs : List Char) :
    [sep].intercalate (splitAll sep cs) = cs := by
  induction cs with
  | nil => rfl
  | cons c rest ih =>
    rw [splitAll]
    cases hparts : splitAll sep rest with
    | nil =>
      rw [hparts] at ih
      obtain rfl : [] = rest := ih
      cases hparts
    | cons part parts =>
      rw [hparts] at ih
      split
      · next hc => rw [List.intercalate_cons_cons, ih, hc]; rfl
      · cases parts <;> simpa [List.intercalate] using ih

/-- Whether a path starts at the root. -/
def IsRooted (path : String) : Prop := path.toList.head? = some '/'

instance : DecidablePred IsRooted := fun path =>
  inferInstanceAs (Decidable (path.toList.head? = some '/'))

/-- The characters of a path after the slash that stands for the root. -/
def belowRoot : List Char → List Char
  | '/' :: cs => cs
  | cs => cs

/-- A path of which every part is the name of an entry. -/
def IsPlain (path : String) : Prop :=
  ∀ part ∈ splitAll '/' (belowRoot path.toList), isIdlePart part = false ∧ part ≠ ['.', '.']

instance : DecidablePred IsPlain := fun path =>
  inferInstanceAs (Decidable (∀ part ∈ splitAll '/' (belowRoot path.toList), _))

theorem foldl_followPart_names {parts : List (List Char)} {at0 : List String}
    (h : ∀ part ∈ parts, isIdlePart part = false ∧ part ≠ ['.', '.']) :
    parts.foldl followPart at0 = at0 ++ parts.map String.ofList := by
  induction parts generalizing at0 with
  | nil => simp
  | cons part parts ih =>
    obtain ⟨hidle, hup⟩ := h part List.mem_cons_self
    have hpart : followPart at0 part = at0 ++ [String.ofList part] := by
      rw [followPart, if_neg (by simp [hidle]), if_neg hup]
    rw [List.foldl_cons, ih fun p hp => h p (List.mem_cons_of_mem _ hp), hpart, List.map_cons,
      List.append_assoc, List.singleton_append]

theorem eq_cons_belowRoot {cs : List Char} (h : cs.head? = some '/') : cs = '/' :: belowRoot cs := by
  cases cs with
  | nil => cases h
  | cons c rest =>
    cases h
    rfl

theorem belowRoot_eq_self {cs : List Char} (h : cs.head? ≠ some '/') : belowRoot cs = cs := by
  unfold belowRoot
  split
  · exact absurd rfl h
  · rfl

/-- Two paths that start alike are the same if they go on alike. -/
theorem eq_of_belowRoot {path other : String} (hroot : IsRooted path ↔ IsRooted other)
    (h : belowRoot path.toList = belowRoot other.toList) : path = other := by
  rw [← String.toList_inj]
  by_cases hpath : IsRooted path
  · rw [eq_cons_belowRoot hpath, eq_cons_belowRoot (hroot.1 hpath), h]
  · rw [← belowRoot_eq_self hpath, ← belowRoot_eq_self (mt hroot.2 hpath), h]

namespace FileSystem

variable {fs : FileSystem} {path other : String}

/-- The slash of the root leads nowhere. -/
theorem resolve_eq (fs : FileSystem) (path : String) : fs.resolve path
    = (splitAll '/' (belowRoot path.toList)).foldl followPart (fs.start path.toList) := by
  unfold resolve belowRoot
  split
  · next cs hcs => rw [hcs]; rfl
  · rfl

/-- Two plain paths that are written for one location, both from the root or both not, are the same. -/
theorem eq_of_resolve_plain (hpath : IsPlain path) (hother : IsPlain other)
    (hroot : IsRooted path ↔ IsRooted other) (h : fs.resolve path = fs.resolve other) :
    path = other := by
  have hstart : fs.start path.toList = fs.start other.toList := by
    unfold start
    exact ite_congr (propext hroot) (fun _ => rfl) (fun _ => rfl)
  rw [resolve_eq, resolve_eq, foldl_followPart_names hpath, foldl_followPart_names hother, hstart,
    List.append_cancel_left_eq] at h
  have hparts := List.map_inj_right (fun _ _ => String.ofList_inj.1) |>.1 h
  refine eq_of_belowRoot hroot ?_
  rw [← intercalate_splitAll '/' (belowRoot path.toList), hparts, intercalate_splitAll]

end FileSystem

end ScriptHost
