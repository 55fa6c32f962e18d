import ScriptHost.Proofs.BundleText

/-!
# Templates are named after their files

A template has the name of the last part of its path, without what follows the last dot.  Slashes at the end of a path
name nothing, and neither do dots that stand alone after a slash; a dot at the start of a part does not divide it.

* `EndsIn` — the last part of a path that names something.
* `Cuts` — a part without what follows its last dot.
* `getLast?_pathComponents` — the components of a path end with its last part.
* `templateName_last_part` — **the name of a template, and when there is none**.
-/

namespace ScriptHost

/-! ## The last part of a path -/

/-- What may follow the last part of a path: slashes, each alone or with a dot after it. -/
def Trails (after : List Char) : Prop :=
  ∃ steps : List (List Char), after = steps.flatten ∧ ∀ step ∈ steps, step = ['/'] ∨ step = ['/', '.']

/-- A path whose last part that names something is the given one. -/
def EndsIn (path part : List Char) : Prop :=
  part ≠ [] ∧ part ≠ ['.'] ∧ '/' ∉ part ∧
    ∃ before after, path = before ++ part ++ after ∧ (before = [] ∨ before.getLast? = some '/') ∧ Trails after

/-- Parts that name nothing. -/
def AllIdle (parts : List (List Char)) : Prop := ∀ part ∈ parts, ¬ (part ≠ [] ∧ part ≠ ['.'])

theorem splitAll_append (sep : Char) (before after : List Char) :
    splitAll sep (before ++ sep :: after) = splitAll sep before ++ splitAll sep after := by
  rw [splitAll_eq, splitAll_eq, splitAll_eq, List.splitOn_append_cons_self]

theorem splitAll_of_notMem {sep : Char} {part : List Char} (h : sep ∉ part) : splitAll sep part = [part] := by
  rw [splitAll_eq, List.splitOn_eq_singleton h]

theorem notMem_of_mem_splitAll {sep : Char} {cs part : List Char} (h : part ∈ splitAll sep cs) : sep ∉ part := by
  induction cs generalizing part with
  | nil =>
    obtain rfl : part = [] := List.mem_singleton.1 h
    exact List.not_mem_nil
  | cons c cs ih =>
    rw [splitAll] at h
    split at h
    · cases h with
      | head => exact List.not_mem_nil
      | tail _ hrest => exact ih hrest
    · next hc =>
      cases hparts : splitAll sep cs with
      | nil =>
        rw [splitAll_eq] at hparts
        exact absurd hparts (List.splitOn_ne_nil sep cs)
      | cons first parts =>
        rw [hparts] at h ih
        cases h with
        | head => simpa [Ne.symm hc] using ih List.mem_cons_self
        | tail _ hrest => exact ih (List.mem_cons_of_mem _ hrest)

/-- The last element of a list with some property, unless there is none. -/
theorem exists_last {α : Type} (P : α → Prop) (xs : List α) :
    (∀ x ∈ xs, ¬ P x) ∨ ∃ before x after, xs = before ++ x :: after ∧ P x ∧ ∀ y ∈ after, ¬ P y := by
  induction xs with
  | nil => exact .inl (List.forall_mem_nil _)
  | cons x xs ih =>
    obtain hnone | ⟨before, y, after, rfl, hy, hafter⟩ := ih
    · by_cases hx : P x
      · exact .inr ⟨[], x, xs, rfl, hx, hnone⟩
      · exact .inl (List.forall_mem_cons.2 ⟨hx, hnone⟩)
    · exact .inr ⟨x :: before, y, after, rfl, hy, hafter⟩

/-! ### From texts to parts -/

theorem splitAll_trails {part after : List Char} (hpart : '/' ∉ part) (h : Trails after) :
    ∃ idle, splitAll '/' (part ++ after) = part :: idle ∧ AllIdle idle := by
  obtain ⟨steps, rfl, hsteps⟩ := h
  induction steps generalizing part with
  | nil =>
    refine ⟨[], ?_, List.forall_mem_nil _⟩
    rw [List.flatten_nil, List.append_nil, splitAll_of_notMem hpart]
  | cons step steps ih =>
    obtain ⟨hstep, hrest⟩ := List.forall_mem_cons.1 hsteps
    obtain ⟨next, rfl, hnext⟩ : ∃ next, step = '/' :: next ∧ (next = [] ∨ next = ['.']) := by
      rcases hstep with rfl | rfl
      · exact ⟨[], rfl, .inl rfl⟩
      · exact ⟨['.'], rfl, .inr rfl⟩
    have hslash : '/' ∉ next := by rcases hnext with rfl | rfl <;> decide
    obtain ⟨idle, hidle, hall⟩ := ih hslash hrest
    refine ⟨next :: idle, ?_, List.forall_mem_cons.2 ⟨?_, hall⟩⟩
    · rw [List.flatten_cons, List.cons_append, splitAll_append, splitAll_of_notMem hpart, hidle]
      rfl
    · rintro ⟨hne, hdot⟩
      exact hnext.elim hne hdot

/-- The parts of a path are those before its last part, that part, and idle ones. -/
theorem EndsIn.splitAll {path part : List Char} (h : EndsIn path part) :
    ∃ before idle, splitAll '/' path = before ++ part :: idle ∧ AllIdle idle := by
  obtain ⟨-, -, hslash, before, after, rfl, hbefore, htrails⟩ := h
  obtain ⟨idle, hidle, hall⟩ := splitAll_trails hslash htrails
  rcases hbefore with rfl | hbefore
  · exact ⟨[], idle, hidle, hall⟩
  · obtain ⟨dir, rfl⟩ := List.getLast?_eq_some_iff.1 hbefore
    refine ⟨ScriptHost.splitAll '/' dir, idle, ?_, hall⟩
    rw [List.append_assoc, List.append_assoc, List.singleton_append, splitAll_append, hidle]

/-! ### From parts to texts -/

/-- A text with slashes before each of some idle parts. -/
theorem trails_flatMap {idle : List (List Char)} (h : AllIdle idle) : Trails (idle.flatMap ('/' :: ·)) := by
  refine ⟨idle.map ('/' :: ·), List.flatMap_def, ?_⟩
  intro step hstep
  obtain ⟨part, hpart, rfl⟩ := List.mem_map.1 hstep
  by_cases hne : part = []
  · exact .inl (by rw [hne])
  · exact .inr (by rw [not_ne_iff.1 fun hdot => h part hpart ⟨hne, hdot⟩])

theorem intercalate_cons_eq (part : List Char) (parts : List (List Char)) :
    ['/'].intercalate (part :: parts) = part ++ parts.flatMap ('/' :: ·) := by
  induction parts generalizing part with
  | nil => simp
  | cons next parts ih => rw [List.intercalate_cons_cons, ih, List.flatMap_cons]; simp

theorem intercalate_append_cons (before : List (List Char)) (part : List Char) (after : List (List Char)) :
    ∃ head, (head = [] ∨ head.getLast? = some '/') ∧
      ['/'].intercalate (before ++ part :: after) = head ++ part ++ after.flatMap ('/' :: ·) := by
  induction before with
  | nil => exact ⟨[], .inl rfl, intercalate_cons_eq part after⟩
  | cons first before ih =>
    obtain ⟨head, hhead, heq⟩ := ih
    refine ⟨first ++ '/' :: head, .inr ?_, ?_⟩
    · rcases hhead with rfl | hhead
      · simp
      · rw [List.getLast?_append, List.getLast?_cons, hhead]
        rfl
    · obtain ⟨second, rest, hrest⟩ : ∃ second rest, before ++ part :: after = second :: rest := by
        cases before <;> exact ⟨_, _, rfl⟩
      rw [List.cons_append, hrest, List.intercalate_cons_cons, ← hrest, heq]
      simp

theorem endsIn_of_splitAll {path part : List Char} {before idle : List (List Char)} (hne : part ≠ [])
    (hdot : part ≠ ['.']) (hparts : splitAll '/' path = before ++ part :: idle) (hidle : AllIdle idle) :
    EndsIn path part := by
  have hslash : '/' ∉ part := notMem_of_mem_splitAll (by rw [hparts]; simp)
  obtain ⟨head, hhead, heq⟩ := intercalate_append_cons before part idle
  refine ⟨hne, hdot, hslash, head, _, ?_, hhead, trails_flatMap hidle⟩
  rw [← heq, ← hparts, splitAll_eq, List.intercalate_splitOn]

/-! ### Components -/

theorem filter_allIdle {idle : List (List Char)} (h : AllIdle idle) :
    (idle.filter fun p => p ≠ [] ∧ p ≠ ['.']) = [] := by
  rw [List.filter_eq_nil_iff]
  intro p hp
  simpa using h p hp

/-- The components of a path end with its last part. -/
theorem getLast?_pathComponents {path part : List Char} (h : EndsIn path part) :
    (pathComponents path).getLast? = some part := by
  obtain ⟨before, idle, hparts, hidle⟩ := h.splitAll
  have hproper : (part ≠ [] ∧ part ≠ ['.']) := ⟨h.1, h.2.1⟩
  unfold pathComponents
  cases before with
  | nil =>
    rw [hparts, List.nil_append]
    simp only [filter_allIdle hidle, List.isEmpty_eq_false_iff.2 h.1]
    rfl
  | cons first before =>
    rw [hparts]
    simp only [List.cons_append, List.filter_append]
    rw [List.filter_cons_of_pos (by simpa using hproper), filter_allIdle hidle]
    split
    · exact List.getLast?_concat
    · rw [← List.cons_append, List.getLast?_concat]

/-- A path without a last part has no components, or only the dot with which it starts. -/
theorem getLast?_pathComponents_of_not {path : List Char} (h : ∀ part, ¬ EndsIn path part) :
    (pathComponents path).getLast? = none ∨ (pathComponents path).getLast? = some ['.'] := by
  obtain hidle | ⟨before, part, idle, hparts, hproper, hidle⟩ :=
    exists_last (fun part : List Char => part ≠ [] ∧ part ≠ ['.']) (splitAll '/' path)
  · unfold pathComponents
    cases hparts : splitAll '/' path with
    | nil => exact .inl rfl
    | cons first rest =>
      rw [hparts] at hidle
      obtain ⟨hfirst, hrest⟩ := List.forall_mem_cons.1 hidle
      simp only [filter_allIdle hrest]
      split
      · exact .inl rfl
      · next hne =>
        refine .inr ?_
        rw [List.isEmpty_iff] at hne
        rw [not_ne_iff.1 fun hdot => hfirst ⟨hne, hdot⟩]
        rfl
  · exact absurd (endsIn_of_splitAll hproper.1 hproper.2 hparts hidle) (h part)

/-! ## Names without what follows the last dot -/

/-- What is left of a name without its last dot and what follows: all of it, if only its first character may be a
dot. -/
inductive Cuts : List Char → List Char → Prop where
  | whole {name : List Char} (h : '.' ∉ name.tail) : Cuts name name
  | cut {stem ext : List Char} (hne : stem ≠ []) (hext : '.' ∉ ext) : Cuts (stem ++ '.' :: ext) stem

theorem span_append_dot {ext : List Char} (h : '.' ∉ ext) (stem : List Char) :
    (stem ++ '.' :: ext).reverse.span (· ≠ '.') = (ext.reverse, '.' :: stem.reverse) := by
  have hext : ∀ c ∈ ext.reverse, (decide (c ≠ '.')) = true := by
    intro c hc
    rw [decide_eq_true_iff]
    rintro rfl
    exact h (List.mem_reverse.1 hc)
  rw [List.reverse_append, List.reverse_cons, List.append_assoc, List.singleton_append,
    List.span_eq_takeWhile_dropWhile, List.takeWhile_append_of_pos hext, List.dropWhile_append_of_pos hext]
  simp

theorem stem_of_cuts {name s : List Char} (h : Cuts name s) : stem name = s := by
  cases h with
  | cut hne hext =>
    unfold stem
    rw [span_append_dot hext]
    simp [hne]
  | whole h =>
    obtain hnone | ⟨before, c, ext, rfl, rfl, hext⟩ := exists_last (· = '.') name
    · have hall : ∀ c ∈ name.reverse, (decide (c ≠ '.')) = true := by
        intro c hc
        exact decide_eq_true (hnone c (List.mem_reverse.1 hc))
      unfold stem
      rw [List.span_eq_takeWhile_dropWhile, List.dropWhile_eq_nil_iff.2 hall]
    · -- The last dot is not in the tail, so nothing stands before it.
      obtain rfl : before = [] := by
        cases before with
        | nil => rfl
        | cons first before => exact absurd (by simp) h
      unfold stem
      rw [span_append_dot fun hmem => hext _ hmem rfl]
      rfl

theorem cuts_stem (name : List Char) : Cuts name (stem name) := by
  have hcuts : ∃ s, Cuts name s := by
    obtain hnone | ⟨before, c, ext, rfl, rfl, hext⟩ := exists_last (· = '.') name
    · exact ⟨name, .whole fun hmem => hnone _ (List.mem_of_mem_tail hmem) rfl⟩
    · have hnone : '.' ∉ ext := fun hmem => hext _ hmem rfl
      by_cases hbefore : before = []
      · subst hbefore
        exact ⟨_, .whole hnone⟩
      · exact ⟨before, .cut hbefore hnone⟩
  obtain ⟨s, hs⟩ := hcuts
  rwa [stem_of_cuts hs]

/-! ## Names of templates -/

theorem templateName_of_endsIn {path : String} {part : List Char} (h : EndsIn path.toList part) :
    templateName path = if part = ['.', '.'] then .error (.noTemplateName path)
      else .ok (String.ofList (stem part)) := by
  have hdot : part ≠ ['.'] := h.2.1
  simp only [templateName, getLast?_pathComponents h, hdot, false_or]

theorem templateName_of_not_endsIn {path : String} (h : ∀ part, ¬ EndsIn path.toList part) :
    templateName path = .error (.noTemplateName path) := by
  obtain hnone | hdot := getLast?_pathComponents_of_not h
  · simp only [templateName, hnone]
  · simp only [templateName, hdot, true_or, if_true]

theorem templateName_eq_ok_iff {path name : String} : templateName path = .ok name ↔
    ∃ part, EndsIn path.toList part ∧ part ≠ ['.', '.'] ∧ Cuts part name.toList := by
  constructor
  · intro hok
    by_cases h : ∃ part, EndsIn path.toList part
    · obtain ⟨part, hpart⟩ := h
      rw [templateName_of_endsIn hpart] at hok
      split at hok
      · cases hok
      · next hparent =>
        cases hok
        refine ⟨part, hpart, hparent, ?_⟩
        rw [String.toList_ofList]
        exact cuts_stem part
    · rw [templateName_of_not_endsIn (not_exists.1 h)] at hok
      cases hok
  · rintro ⟨part, hpart, hparent, hcuts⟩
    rw [templateName_of_endsIn hpart, if_neg hparent, stem_of_cuts hcuts, String.ofList_toList]

theorem templateName_eq_error_iff {path : String} : templateName path = .error (.noTemplateName path) ↔
    ∀ part, EndsIn path.toList part → part = ['.', '.'] := by
  constructor
  · intro herror part hpart
    rw [templateName_of_endsIn hpart] at herror
    split at herror
    · assumption
    · cases herror
  · intro hparent
    by_cases h : ∃ part, EndsIn path.toList part
    · obtain ⟨part, hpart⟩ := h
      rw [templateName_of_endsIn hpart, if_pos (hparent part hpart)]
    · exact templateName_of_not_endsIn (not_exists.1 h)

/-- **The name of a template.**  It is the last part of the path without its last dot and what follows, where slashes
and single dots at the end of the path do not count and a dot at the start of the part does not divide it; there is no
name if there is no such part or if it goes back to another directory.  So a file in any directory has the name that
stands before its extension. -/
theorem templateName_last_part (path : String) :
    (∀ name, templateName path = .ok name ↔
      ∃ part, EndsIn path.toList part ∧ part ≠ ['.', '.'] ∧ Cuts part name.toList)
    ∧ (templateName path = .error (.noTemplateName path) ↔ ∀ part, EndsIn path.toList part → part = ['.', '.'])
    ∧ ∀ dir name ext after : List Char, path.toList = dir ++ (name ++ '.' :: ext) ++ after →
      (dir = [] ∨ dir.getLast? = some '/') → Trails after → name ≠ [] → '/' ∉ name → '.' ∉ ext → '/' ∉ ext →
      name ++ '.' :: ext ≠ ['.', '.'] → templateName path = .ok (String.ofList name) := by
  refine ⟨fun name => templateName_eq_ok_iff, templateName_eq_error_iff, ?_⟩
  intro dir name ext after hpath hdir hafter hne hslash hdot hslash' hparent
  have hshort : name ++ '.' :: ext ≠ ['.'] := by
    intro h
    have hlength := congrArg List.length h
    have hpos := List.length_pos_of_ne_nil hne
    simp at hlength
    omega
  have hends : EndsIn path.toList (name ++ '.' :: ext) :=
    ⟨by simp, hshort, by simp [hslash, hslash'], dir, after, hpath, hdir, hafter⟩
  refine templateName_eq_ok_iff.2 ⟨_, hends, hparent, ?_⟩
  rw [String.toList_ofList]
  exact .cut hne hdot

/-- The template of a file with several dots in its name, behind a detour and before idle slashes. -/
theorem templateName_last_part_detour : templateName "../a//.user.list.tpl/./" = .ok ".user.list" := by
  refine (templateName_last_part "../a//.user.list.tpl/./").2.2 "../a//".toList ".user.list".toList "tpl".toList
    "/./".toList (by decide) (.inr (by decide)) ⟨[['/', '.'], ['/']], by decide, by decide⟩ ?_ ?_ ?_ ?_ ?_ <;> decide

/-- A name that is all dots is cut like any other, unless it goes back. -/
example : templateName "a/..." = .ok ".." ∧ templateName "a/.." = .error (.noTemplateName "a/..") := by decide

end ScriptHost
