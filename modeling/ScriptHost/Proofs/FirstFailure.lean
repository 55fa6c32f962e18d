import ScriptHost.Proofs.Layering
import ScriptHost.Proofs.TemplateNames

/-!
# A task fails with its first failure

A task is checked, then its namespace, then its settings; then its sources are gone through in order, each of which
needs a name, has to be read and has to be compiled.  The first of all these that does not succeed is the error, and
what comes later does not matter; if there is none, the bundle has an entry for each source, in order.  This takes for
granted that a template is compiled as it would be alone, which holds as long as no template has to be run.

* `Template.Settings.patterns`, `Task.compiler_of_fault` — the settings that are refused.
* `Task.Made`, `Task.SourceFails` — what a source comes to, for itself.
* `Task.Independent` — sources of which none changes how later ones are compiled.
* `Task.addSources_eq_error` — sources are added as far as the first that fails.
* `Task.Fails` — the failures of a task, each after all that comes before it.
* `Task.render_first_failure` — **what a task renders, and with which error it fails**.
-/

namespace ScriptHost

open ScriptHost.FileSystem
open Template (Delimiters Settings loadedCompiler outcome? inForce)

/-! ## Settings that are refused -/

namespace Template

/-- The patterns that settings give, in the order in which they are applied. -/
def Settings.patterns (s : Settings) : List String := s.entries.map (·.2)

theorem Settings.entries_eq (s : Settings) : s.entries
    = ((s.interpolate.filter (!·.isEmpty)).map ("interpolate", ·)).toList
      ++ ((s.evaluate.filter (!·.isEmpty)).map ("evaluate", ·)).toList
      ++ ((s.escape.filter (!·.isEmpty)).map ("escape", ·)).toList := by
  unfold entries
  simp only [List.filterMap_cons, List.filterMap_nil]
  cases s.interpolate.filter (!·.isEmpty) <;> cases s.evaluate.filter (!·.isEmpty) <;>
    cases s.escape.filter (!·.isEmpty) <;> rfl

/-- Settings give the patterns that are not empty. -/
theorem Settings.mem_patterns {s : Settings} {p : String} :
    p ∈ s.patterns ↔ p ≠ "" ∧ some p ∈ [s.interpolate, s.evaluate, s.escape] := by
  have hmember (key : String) (setting : Option String) :
      p ∈ ((setting.filter (!·.isEmpty)).map (key, ·)).toList.map (·.2) ↔ p ≠ "" ∧ some p = setting := by
    have hgiven : setting.filter (!·.isEmpty) = some p ↔ p ≠ "" ∧ some p = setting := by
      rw [Option.filter_eq_some_iff, eq_comm]
      simp [and_comm]
    rw [← hgiven]
    cases setting.filter (!·.isEmpty) <;> simp [eq_comm]
  rw [patterns, entries_eq, List.map_append, List.map_append, List.mem_append, List.mem_append, hmember, hmember,
    hmember, ← and_or_left, ← and_or_left]
  simp [or_assoc]

namespace Delimiters

theorem patterns_changes (s : Settings) : (changes s).map (·.1) = s.patterns := by
  rw [Settings.patterns, Settings.entries_eq]
  unfold changes change
  cases s.interpolate.filter (!·.isEmpty) <;> cases s.evaluate.filter (!·.isEmpty) <;>
    cases s.escape.filter (!·.isEmpty) <;> rfl

/-- Delimiters are replaced as far as the first pattern that is no regular expression. -/
theorem configureAll_snd (d : Delimiters) (changes : List (String × (Delimiters → Delimiters))) :
    (d.configureAll changes).2 = (changes.map (·.1)).findSome? faultOf? := by
  induction changes generalizing d with
  | nil => rfl
  | cons change rest ih =>
    obtain ⟨p, f⟩ := change
    rw [configureAll, List.map_cons, List.findSome?_cons]
    cases faultOf? p with
    | none => exact ih (f d)
    | some message => rfl

theorem configure_snd (d : Delimiters) (s : Settings) : (d.configure s).2 = s.patterns.findSome? faultOf? := by
  rw [configure, configureAll_snd, patterns_changes]

end Delimiters

/-- How a pattern that is no regular expression is reported. -/
def settingsError (message : String) : HostError :=
  .scriptFault { syntaxReport message settingPlace with sourceText := some librarySource }.fault

theorem configure_refused {d d' : Delimiters} {s : Settings} {message : String}
    (h : d.configure s = (d', some message)) (host : Host) :
    (loadedCompiler d).configure languages s host = (.error (settingsError message), loadedCompiler d', host) := by
  have hcall : Library.call? "setTemplateSettings" [s.toValue] = some (.configure s.given) := by
    simp only [Library.call?, Settings.settings?_toValue, Option.map_some]
  have hanswer : Library.call (.configure s.given) (.loaded d) host
      = (.error (.raised (syntaxReport message settingPlace)), .loaded d', host) := by
    simp only [Library.call, Library.configure, configure_given, h]
  rw [Compiler.configure, invoke_loaded (by decide) hcall hanswer]
  rfl

end Template

namespace Task

/-- The delimiters that the settings of a task ask for. -/
def delimiters (t : Task) : Delimiters := inForce .standard [.configure t.settings]

/-- A task has a compiler with its delimiters if they are regular expressions. -/
theorem compiler_of_valid {t : Task} (h : ∀ p ∈ t.settings.patterns, Delimiters.faultOf? p = none) :
    t.compiler = .ok (loadedCompiler t.delimiters) := by
  have hnone : (Delimiters.standard.configure t.settings).2 = none := by
    rw [Delimiters.configure_snd, List.findSome?_eq_none_iff]
    exact h
  rcases hconfigure : Delimiters.standard.configure t.settings with ⟨d, fault⟩
  rw [hconfigure] at hnone
  subst hnone
  rw [delimiters, ← Template.configure_eq hconfigure]
  exact compiler_eq hconfigure

/-- The first pattern that is no regular expression is the error of the settings. -/
theorem compiler_of_fault {t : Task} {message : String}
    (h : t.settings.patterns.findSome? Delimiters.faultOf? = some message) :
    t.compiler = .error (Template.settingsError message) := by
  rcases hconfigure : Delimiters.standard.configure t.settings with ⟨d, fault⟩
  have hfault : fault = some message := by
    rw [← h, ← Delimiters.configure_snd, hconfigure]
  subst hfault
  -- unfolded as a function, as the compiler of a task with accepted settings is
  have hunfold : ∀ f, f = compiler → f t = .error (Template.settingsError message) := by
    intro f hf
    delta compiler at hf
    rw [hf, Template.loadEmbedded_eq]
    dsimp only
    rw [Template.configure_refused hconfigure]
  exact hunfold compiler rfl

/-! ## Sources -/

/-- What a new compiler with these delimiters answers to a text. -/
def alone (d : Delimiters) (text : String) : Except HostError String := (compileText (loadedCompiler d) text).1

section Sources

/-- A source with the entry that is made of it: its name, and what is answered to its text. -/
def EntryOf (fs : FileSystem) (answer : String → Except HostError String) (path : String)
    (entry : String × String) : Prop :=
  templateName path = .ok entry.1 ∧ ∃ text, ((files.readText path).run fs).1 = .ok text ∧ answer text = .ok entry.2

/-- Sources with the entries that are made of them, in order. -/
def Made (fs : FileSystem) (answer : String → Except HostError String) :
    List String → List (String × String) → Prop := List.Forall₂ (EntryOf fs answer)

/-- Why no entry is made of a source: it has no name, or else it cannot be read, or else it does not compile. -/
inductive SourceFails (fs : FileSystem) (answer : String → Except HostError String) (path : String) :
    TaskError → Prop
  | unnamed {e : BundleError} (hname : templateName path = .error e) : SourceFails fs answer path (.bundle e)
  | unread {name : String} {e : IoError} (hname : templateName path = .ok name)
    (hread : ((files.readText path).run fs).1 = .error e) : SourceFails fs answer path (.io path e)
  | uncompiled {name text : String} {e : HostError} (hname : templateName path = .ok name)
    (hread : ((files.readText path).run fs).1 = .ok text) (hanswer : answer text = .error e) :
    SourceFails fs answer path (.template path e)

variable {fs : FileSystem} {answer answer' : String → Except HostError String} {c : TaskCompiler} {b : Bundle}
  {path : String} {paths : List String} {entries : List (String × String)} {e : TaskError}

/-- The entries of sources in two parts are those of the first part and then those of the second. -/
theorem made_append {xs ys : List String} : Made fs answer (xs ++ ys) entries ↔
      ∃ es es', entries = es ++ es' ∧ Made fs answer xs es ∧ Made fs answer ys es' := by
  constructor
  · intro hmade
    induction xs generalizing entries with
    | nil => exact ⟨[], entries, rfl, .nil, hmade⟩
    | cons x xs ih =>
      cases hmade with
      | cons hentry hrest =>
        obtain ⟨es, es', rfl, hxs, hys⟩ := ih hrest
        exact ⟨_ :: es, es', rfl, .cons hentry hxs, hys⟩
  · rintro ⟨es, es', rfl, hxs, hys⟩
    exact List.rel_append hxs hys

theorem SourceFails.congr (h : SourceFails fs answer path e)
    (hanswers : ∀ name text, templateName path = .ok name → ((files.readText path).run fs).1 = .ok text →
      answer text = answer' text) :
    SourceFails fs answer' path e := by
  cases h with
  | unnamed hname => exact .unnamed hname
  | unread hname hread => exact .unread hname hread
  | uncompiled hname hread hanswer => exact .uncompiled hname hread (hanswers _ _ hname hread ▸ hanswer)

/-- Of a source of which an entry is made, nothing fails. -/
theorem EntryOf.not_fails {entry : String × String} (h : EntryOf fs answer path entry) :
    ¬ SourceFails fs answer path e := by
  obtain ⟨hname, text, hread, hanswer⟩ := h
  intro hfails
  cases hfails with
  | unnamed hname' => cases hname.symm.trans hname'
  | unread _ hread' => cases hread.symm.trans hread'
  | uncompiled _ hread' hanswer' =>
    cases hread.symm.trans hread'
    cases hanswer.symm.trans hanswer'

/-- Sources whose texts, compiled one after the other as far as one that fails, are answered as if each were the only
one. -/
def Independent (fs : FileSystem) (answer : String → Except HostError String) : TaskCompiler → List String → Prop
  | _, [] => True
  | c, path :: rest => ∀ name text, templateName path = .ok name → ((files.readText path).run fs).1 = .ok text →
    (compileText c text).1 = answer text
      ∧ ∀ source, answer text = .ok source → Independent fs answer (compileText c text).2 rest

/-- Templates that need not be run do not change how others are compiled. -/
theorem independent_loaded {d : Delimiters}
    (h : ∀ path ∈ paths, ∀ text, ((files.readText path).run fs).1 = .ok text → (outcome? d text).isSome) :
    Independent fs (alone d) (loadedCompiler d) paths := by
  induction paths with
  | nil => trivial
  | cons path rest ih =>
    obtain ⟨hpath, hrest⟩ := List.forall_mem_cons.1 h
    intro name text _ hread
    obtain ⟨answer, hanswer⟩ := Option.isSome_iff_exists.1 (hpath text hread)
    refine ⟨rfl, ?_⟩
    intro source _
    rw [compileText_loaded hanswer]
    exact ih hrest

/-- Sources that are compiled one after the other are made to the same entries as each alone. -/
theorem compiles_iff_made (h : Independent fs answer c paths) :
    Compiles fs c paths entries ↔ Made fs answer paths entries := by
  induction paths generalizing c entries with
  | nil =>
    constructor
    · intro hcompiles
      cases hcompiles
      exact .nil
    · intro hmade
      cases hmade
      exact .nil c
  | cons path rest ih =>
    constructor
    · intro hcompiles
      cases hcompiles with
      | cons hname hread hcompile hentries =>
        obtain ⟨hanswer, hrest⟩ := h _ _ hname hread
        rw [hcompile] at hanswer hrest
        exact .cons ⟨hname, _, hread, hanswer.symm⟩ ((ih (hrest _ hanswer.symm)).1 hentries)
    · intro hmade
      cases hmade with
      | cons hentry hentries =>
        obtain ⟨hname, text, hread, hcompiled⟩ := hentry
        obtain ⟨hanswer, hrest⟩ := h _ _ hname hread
        exact .cons hname hread (Prod.ext (hanswer.trans hcompiled) rfl) ((ih (hrest _ hcompiled)).2 hentries)

/-- A source that is not added. -/
theorem addSource_eq_error : ((addSource files c b path).run fs).1 = .error e
    ↔ SourceFails fs (fun text => (compileText c text).1) path e := by
  unfold addSource
  constructor
  · intro h
    cases hname : templateName path with
    | error reason =>
      rw [hname] at h
      cases h
      exact .unnamed hname
    | ok name =>
      rw [hname] at h
      dsimp only at h
      rw [bind_run] at h
      cases hread : ((files.readText path).run fs).1 with
      | error reason =>
        rw [hread] at h
        cases h
        exact .unread hname hread
      | ok text =>
        rw [hread] at h
        rcases hcompile : compileText c text with ⟨reason | source, c'⟩
        · simp only [hcompile] at h
          cases h
          exact .uncompiled hname hread (congrArg Prod.fst hcompile)
        · simp only [hcompile] at h
          cases h
  · intro h
    cases h with
    | unnamed hname =>
      rw [hname]
      rfl
    | unread hname hread =>
      rw [hname]
      dsimp only
      rw [bind_run, hread]
      rfl
    | @uncompiled _ text reason hname hread hanswer =>
      rw [hname]
      dsimp only
      rw [bind_run, hread]
      rcases hcompile : compileText c text with ⟨answer, c'⟩
      rw [hcompile] at hanswer
      cases hanswer
      simp only [hcompile]
      rfl

/-- Sources are added as far as the first that fails, and its failure is the error. -/
theorem addSources_eq_error (h : Independent fs answer c paths) :
    ((addSources files c b paths).run fs).1 = .error e ↔ ∃ before path after entries,
      paths = before ++ path :: after ∧ Made fs answer before entries ∧ SourceFails fs answer path e := by
  induction paths generalizing c b with
  | nil =>
    constructor
    · intro hrun
      cases hrun
    · rintro ⟨before, path, after, entries, hsplit, -, -⟩
      simp at hsplit
  | cons first rest ih =>
    have hanswers : ∀ name text, templateName first = .ok name → ((files.readText first).run fs).1 = .ok text →
        (compileText c text).1 = answer text := fun name text hname hread => (h name text hname hread).1
    unfold addSources
    rw [bind_run, readsOnly_addSource]
    cases hsource : ((addSource files c b first).run fs).1 with
    | error reason =>
      have hfails := addSource_eq_error.1 hsource
      constructor
      · intro hrun
        cases hrun
        exact ⟨[], first, rest, [], rfl, .nil, hfails.congr hanswers⟩
      · rintro ⟨before, path, after, entries, hsplit, hmade, hfails'⟩
        cases before with
        | nil =>
          cases hsplit
          have hsource' : ((addSource files c b first).run fs).1 = .error e :=
            addSource_eq_error.2 (hfails'.congr fun name text hname hread => (hanswers name text hname hread).symm)
          cases hsource.symm.trans hsource'
          rfl
        | cons path' before =>
          cases hsplit
          cases hmade with
          | cons hentry _ => exact absurd (hfails.congr hanswers) hentry.not_fails
    | ok next =>
      obtain ⟨c', b'⟩ := next
      obtain ⟨name, text, source, hname, hread, hcompile, -⟩ := addSource_eq_ok.1 hsource
      obtain ⟨hanswer, hlater⟩ := h name text hname hread
      rw [hcompile] at hanswer hlater
      have hrest := hlater source hanswer.symm
      have hentry : EntryOf fs answer first (name, source) := ⟨hname, text, hread, hanswer.symm⟩
      constructor
      · intro hrun
        obtain ⟨before, path, after, entries, rfl, hmade, hfails⟩ := (ih hrest).1 hrun
        exact ⟨first :: before, path, after, (name, source) :: entries, rfl, .cons hentry hmade, hfails⟩
      · rintro ⟨before, path, after, entries, hsplit, hmade, hfails⟩
        cases before with
        | nil =>
          cases hsplit
          exact absurd hfails hentry.not_fails
        | cons path' before =>
          cases hsplit
          cases hmade with
          | cons _ hmade => exact (ih hrest).2 ⟨before, path, after, _, rfl, hmade, hfails⟩

end Sources

/-! ## The first failure of a task -/

/-- The failures of a task, each of which comes up only if everything before it succeeds: the task is refused, or its
namespace, or its settings, or one of its sources fails after others of which entries are made. -/
inductive Fails (t : Task) (fs : FileSystem) : TaskError → Prop
  | refused {e : TaskError} (h : t.validate = .error e) : Fails t fs e
  | ns {e : BundleError} (hvalid : t.validate = .ok ()) (h : Bundle.new t.ns = .error e) : Fails t fs (.bundle e)
  | settings {b : Bundle} {message : String} (hvalid : t.validate = .ok ()) (hns : Bundle.new t.ns = .ok b)
    (h : t.settings.patterns.findSome? Delimiters.faultOf? = some message) :
    Fails t fs (.host (Template.settingsError message))
  | source {b : Bundle} {before after : List String} {path : String} {entries : List (String × String)} {e : TaskError}
    (hvalid : t.validate = .ok ()) (hns : Bundle.new t.ns = .ok b)
    (hpatterns : ∀ p ∈ t.settings.patterns, Delimiters.faultOf? p = none)
    (hsplit : t.sources = before ++ path :: after) (hmade : Made fs (alone t.delimiters) before entries)
    (h : SourceFails fs (alone t.delimiters) path e) : Fails t fs e

/-- A task that does not render fails with the first of its failures. -/
theorem render_eq_error {t : Task} {fs : FileSystem} {e : TaskError}
    (h : Independent fs (alone t.delimiters) (loadedCompiler t.delimiters) t.sources) :
    ((t.render files).run fs).1 = .error e ↔ Fails t fs e := by
  unfold render
  constructor
  · intro hrun
    cases hvalid : t.validate with
    | error reason =>
      rw [hvalid] at hrun
      cases hrun
      exact .refused hvalid
    | ok _ => cases hns : Bundle.new t.ns with
      | error reason =>
        rw [hvalid, hns] at hrun
        cases hrun
        exact .ns hvalid hns
      | ok b => cases hfault : t.settings.patterns.findSome? Delimiters.faultOf? with
        | some message =>
          rw [hvalid, hns, compiler_of_fault hfault] at hrun
          cases hrun
          exact .settings hvalid hns hfault
        | none =>
          have hpatterns := List.findSome?_eq_none_iff.1 hfault
          rw [hvalid, hns, compiler_of_valid hpatterns] at hrun
          dsimp only at hrun
          rw [bind_run] at hrun
          cases hsources : ((addSources files (loadedCompiler t.delimiters) b t.sources).run fs).1 with
          | ok b' =>
            rw [hsources] at hrun
            cases hrun
          | error reason =>
            rw [hsources] at hrun
            cases hrun
            obtain ⟨before, path, after, entries, hsplit, hmade, hfails⟩ := (addSources_eq_error h).1 hsources
            exact .source hvalid hns hpatterns hsplit hmade hfails
  · intro hfails
    cases hfails with
    | refused hvalid =>
      rw [hvalid]
      rfl
    | ns hvalid hns =>
      rw [hvalid, hns]
      rfl
    | settings hvalid hns hfault =>
      rw [hvalid, hns, compiler_of_fault hfault]
      rfl
    | @source b before after path entries _ hvalid hns hpatterns hsplit hmade hfails =>
      have hsources : ((addSources files (loadedCompiler t.delimiters) b t.sources).run fs).1 = .error e :=
        (addSources_eq_error h).2 ⟨before, path, after, entries, hsplit, hmade, hfails⟩
      rw [hvalid, hns, compiler_of_valid hpatterns]
      dsimp only
      rw [bind_run, hsources]
      rfl

/-- A task renders if everything succeeds, and then the bundle of the entries of its sources. -/
theorem render_eq_ok_of_independent {t : Task} {fs : FileSystem} {text : String}
    (h : Independent fs (alone t.delimiters) (loadedCompiler t.delimiters) t.sources) :
    ((t.render files).run fs).1 = .ok text ↔ t.validate = .ok ()
      ∧ (∀ p ∈ t.settings.patterns, Delimiters.faultOf? p = none)
      ∧ ∃ b entries, Bundle.new t.ns = .ok b ∧ Made fs (alone t.delimiters) t.sources entries
        ∧ text = (b.pushAll entries).finish := by
  rw [render_eq_ok]
  constructor
  · rintro ⟨hvalid, b, c, entries, hns, hcompiler, hcompiles, rfl⟩
    cases hfault : t.settings.patterns.findSome? Delimiters.faultOf? with
    | some message => cases hcompiler.symm.trans (compiler_of_fault hfault)
    | none =>
      have hpatterns := List.findSome?_eq_none_iff.1 hfault
      cases hcompiler.symm.trans (compiler_of_valid hpatterns)
      exact ⟨hvalid, hpatterns, b, entries, hns, (compiles_iff_made h).1 hcompiles, rfl⟩
  · rintro ⟨hvalid, hpatterns, b, entries, hns, hmade, rfl⟩
    exact ⟨hvalid, b, _, entries, hns, compiler_of_valid hpatterns, (compiles_iff_made h).2 hmade, rfl⟩

/-- As long as templates are compiled as they would be alone, a task renders if it is accepted, its namespace is, each
pattern that is not empty is a regular expression, and each source has a name, can be read and compiles.  What it
renders is the bundle of the entries of its sources in order, so that those of a first part of the sources come before
those of the rest.  Otherwise the error is the first of its failures.  What a template is compiled to alone is what the
compiler of the task answers as its first answer. -/
theorem render_first_failure {t : Task} {fs : FileSystem}
    (h : Independent fs (alone t.delimiters) (loadedCompiler t.delimiters) t.sources) :
    (∀ text, ((t.render files).run fs).1 = .ok text ↔ t.validate = .ok ()
      ∧ (∀ p, p ≠ "" → some p ∈ [t.settings.interpolate, t.settings.evaluate, t.settings.escape] →
        Delimiters.faultOf? p = none)
      ∧ ∃ b entries, Bundle.new t.ns = .ok b ∧ Made fs (alone t.delimiters) t.sources entries
        ∧ text = (b.pushAll entries).finish)
    ∧ (∀ xs ys entries, t.sources = xs ++ ys → (Made fs (alone t.delimiters) t.sources entries ↔
      ∃ es es', entries = es ++ es' ∧ Made fs (alone t.delimiters) xs es ∧ Made fs (alone t.delimiters) ys es'))
    ∧ (∀ e, ((t.render files).run fs).1 = .error e ↔ Fails t fs e)
    ∧ ∀ c, t.compiler = .ok c → ∀ text, (compileText c text).1 = alone t.delimiters text := by
  refine ⟨?_, ?_, fun e => render_eq_error h, ?_⟩
  · intro text
    rw [render_eq_ok_of_independent h]
    simp only [Settings.mem_patterns, and_imp]
  · intro xs ys entries hsplit
    rw [hsplit]
    exact made_append
  · intro c hc text
    cases hfault : t.settings.patterns.findSome? Delimiters.faultOf? with
    | some message => cases hc.symm.trans (compiler_of_fault hfault)
    | none =>
      cases hc.symm.trans (compiler_of_valid (List.findSome?_eq_none_iff.1 hfault))
      rfl

/-- Two sources that are made to entries, and a source without a name before one that cannot be read. -/
theorem render_first_failure_digits : (∃ b, Bundle.new "" = .ok b
      ∧ (((fromDirectories ["a/x.tpl", "b/x.tpl"]).render files).run twoDirectories).1
        = .ok (b.pushAll [("x", Template.plainFunction "1"), ("x", Template.plainFunction "2")]).finish)
    ∧ (((fromDirectories ["a/x.tpl", "..", "z.tpl"]).render files).run twoDirectories).1
      = .error (.bundle (.noTemplateName "..")) := by
  have hdelimiters (sources : List String) : (fromDirectories sources).delimiters = .standard := rfl
  have hanswer {text : String} (htext : text ∈ ["1", "2"]) :
      alone .standard text = .ok (Template.plainFunction text) := by
    rw [alone, compileText_loaded (Template.outcome?_digit htext)]
  have hx : EntryOf twoDirectories (alone .standard) "a/x.tpl" ("x", Template.plainFunction "1") :=
    ⟨rfl, "1", rfl, hanswer (by simp)⟩
  have hx' : EntryOf twoDirectories (alone .standard) "b/x.tpl" ("x", Template.plainFunction "2") :=
    ⟨rfl, "2", rfl, hanswer (by simp)⟩
  have hquiet : ∀ path ∈ ["a/x.tpl", "b/x.tpl", "..", "z.tpl"], ∀ text,
      ((files.readText path).run twoDirectories).1 = .ok text → (outcome? .standard text).isSome := by
    intro path hpath text hread
    have htext : text ∈ ["1", "2"] := by
      simp only [List.mem_cons, List.not_mem_nil, or_false] at hpath
      rcases hpath with rfl | rfl | rfl | rfl
      · cases hread
        simp
      · cases hread
        simp
      · cases hread
      · cases hread
    rw [Template.outcome?_digit htext]
    rfl
  have hindependent {sources : List String} (h : sources ⊆ ["a/x.tpl", "b/x.tpl", "..", "z.tpl"]) :
      Independent twoDirectories (alone (fromDirectories sources).delimiters)
        (loadedCompiler (fromDirectories sources).delimiters) (fromDirectories sources).sources := by
    rw [hdelimiters]
    exact independent_loaded fun path hpath => hquiet path (h hpath)
  have hnew : Bundle.new "" = .ok _ := Bundle.new_eq_ok.2 ⟨by decide +kernel, rfl⟩
  have hpatterns (p : String) (_ : p ≠ "") (hp : some p ∈ [none, none, none]) : Delimiters.faultOf? p = none := by
    simp at hp
  constructor
  · have hthis : ["a/x.tpl", "b/x.tpl"] ⊆ ["a/x.tpl", "b/x.tpl", "..", "z.tpl"] := by simp
    obtain ⟨hrender, -⟩ := render_first_failure (hindependent hthis)
    refine ⟨_, hnew, ?_⟩
    rw [hrender, hdelimiters]
    exact ⟨rfl, hpatterns, _, _, hnew, .cons hx (.cons hx' .nil), rfl⟩
  · have hthis : ["a/x.tpl", "..", "z.tpl"] ⊆ ["a/x.tpl", "b/x.tpl", "..", "z.tpl"] := by simp
    obtain ⟨-, -, hfails, -⟩ := render_first_failure (hindependent hthis)
    have hbefore : Made twoDirectories (alone (fromDirectories ["a/x.tpl", "..", "z.tpl"]).delimiters) ["a/x.tpl"]
        [("x", Template.plainFunction "1")] := by
      rw [hdelimiters]
      exact .cons hx .nil
    rw [hfails]
    refine .source rfl hnew ?_ rfl hbefore (.unnamed rfl)
    intro p hp
    cases hp

end Task

end ScriptHost
