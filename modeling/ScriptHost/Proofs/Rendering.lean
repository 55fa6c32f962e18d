import ScriptHost.Proofs.BundleText
import ScriptHost.Proofs.Compiling
import ScriptHost.Proofs.Tasks

/-!
# What a task renders

A task that renders a bundle has compiled all of its sources, one after the other, and pushed them in that order;
a run that succeeds leaves this bundle behind.

* `Task.Compiles` — sources that are read and compiled one after the other, with the entries that are made of them.
* `Task.render_eq_ok`, `Task.run_eq_ok` — **when a task succeeds, and with what**.
* `Task.Written` — the bundle that a run leaves behind.
* `Task.compiler_eq` — the compiler of a task whose settings are accepted.
-/

namespace ScriptHost.Task

open ScriptHost.FileSystem
open Template (Delimiters loadedCompiler outcome?)

/-! ## Sources one after the other -/

/-- Sources that are read and compiled one after the other, with the entries that are made of them. -/
inductive Compiles (fs : FileSystem) : TaskCompiler → List String → List (String × String) → Prop
  | nil (c : TaskCompiler) : Compiles fs c [] []
  | cons {c c' : TaskCompiler} {path name text source : String} {rest : List String}
    {entries : List (String × String)} (hname : templateName path = .ok name)
    (hread : ((files.readText path).run fs).1 = .ok text) (hcompile : compileText c text = (.ok source, c')) :
    Compiles fs c' rest entries → Compiles fs c (path :: rest) ((name, source) :: entries)

theorem Compiles.names {fs : FileSystem} {c : TaskCompiler} {paths : List String} {entries : List (String × String)}
    (h : Compiles fs c paths entries) : paths.map templateName = entries.map fun e => .ok e.1 := by
  induction h with
  | nil c => rfl
  | cons hname _ _ _ ih => rw [List.map_cons, List.map_cons, hname, ih]

/-- A source that is added. -/
theorem addSource_eq_ok {fs : FileSystem} {c c' : TaskCompiler} {b b' : Bundle} {path : String} :
    ((addSource files c b path).run fs).1 = .ok (c', b') ↔ ∃ name text source, templateName path = .ok name
      ∧ ((files.readText path).run fs).1 = .ok text ∧ compileText c text = (.ok source, c')
      ∧ b.push name source = b' := by
  unfold addSource
  cases hname : templateName path with
  | error e => simp
  | ok name =>
    dsimp only
    rw [bind_run]
    cases hread : ((files.readText path).run fs).1 with
    | error e => simp
    | ok text =>
      rcases hcompile : compileText c text with ⟨e | source, c₁⟩
      · simp [hcompile]
      · simp only [hcompile]
        constructor
        · intro h
          cases h
          exact ⟨name, text, source, rfl, rfl, hcompile, rfl⟩
        · rintro ⟨_, _, source', hn, ht, h, rfl⟩
          cases hn
          cases ht
          cases hcompile.symm.trans h
          rfl

/-- Sources that are added are compiled one after the other and pushed in that order. -/
theorem addSources_eq_ok {fs : FileSystem} {c : TaskCompiler} {b b' : Bundle} {paths : List String} :
    ((addSources files c b paths).run fs).1 = .ok b' ↔ ∃ entries, Compiles fs c paths entries
      ∧ b' = b.pushAll entries := by
  induction paths generalizing c b with
  | nil =>
    constructor
    · intro h
      cases h
      exact ⟨[], .nil c, rfl⟩
    · rintro ⟨entries, hcompiles, rfl⟩
      cases hcompiles
      rfl
  | cons path rest ih =>
    unfold addSources
    rw [bind_run, readsOnly_addSource]
    constructor
    · intro h
      cases hsource : ((addSource files c b path).run fs).1 with
      | error e =>
        rw [hsource] at h
        cases h
      | ok next =>
        obtain ⟨c', b₁⟩ := next
        rw [hsource] at h
        obtain ⟨name, text, source, hname, hread, hcompile, rfl⟩ := addSource_eq_ok.1 hsource
        obtain ⟨entries, hrest, rfl⟩ := ih.1 h
        exact ⟨_, .cons hname hread hcompile hrest, rfl⟩
    · rintro ⟨_, hcompiles, rfl⟩
      cases hcompiles with
      | cons hname hread hcompile hrest =>
        rw [addSource_eq_ok.2 ⟨_, _, _, hname, hread, hcompile, rfl⟩]
        exact ih.2 ⟨_, hrest, rfl⟩

/-! ## The bundle of a run -/

/-- The text that a task renders is that of the bundle of its sources. -/
theorem render_eq_ok {t : Task} {fs : FileSystem} {text : String} : ((t.render files).run fs).1 = .ok text ↔
    t.validate = .ok () ∧ ∃ b c entries, Bundle.new t.ns = .ok b ∧ t.compiler = .ok c
      ∧ Compiles fs c t.sources entries ∧ (b.pushAll entries).finish = text := by
  unfold render
  cases t.validate with
  | error e => simp
  | ok _ => cases Bundle.new t.ns with
    | error e => simp
    | ok b => cases t.compiler with
      | error e => simp
      | ok c =>
        dsimp only
        rw [bind_run]
        have hsources {b' : Bundle} : ((addSources files c b t.sources).run fs).1 = .ok b' ↔ _ := addSources_eq_ok
        cases h : ((addSources files c b t.sources).run fs).1 with
        | error e =>
          rw [h] at hsources
          have hnone : ∀ entries, ¬Compiles fs c t.sources entries := by
            intro entries hcompiles
            cases hsources.2 ⟨entries, hcompiles, rfl⟩
          simp [hnone]
        | ok b' =>
          rw [h] at hsources
          constructor
          · intro htext
            cases htext
            obtain ⟨entries, hcompiles, rfl⟩ := hsources.1 rfl
            exact ⟨rfl, b, c, entries, rfl, rfl, hcompiles, rfl⟩
          · rintro ⟨-, _, _, entries, hb, hc, hcompiles, rfl⟩
            cases hb
            cases hc
            cases hsources.2 ⟨entries, hcompiles, rfl⟩
            rfl

/-- A run succeeds if it renders the bundle and puts it in its place. -/
theorem run_eq_ok {t : Task} {fs fs' : FileSystem} {n : Nat} : (t.run files).run fs = (.ok n, fs') ↔
    n = t.sources.length ∧ ∃ text, ((t.render files).run fs).1 = .ok text
      ∧ (files.replace t.output (Text.Utf8.encode text)).run fs = (.ok (), fs') := by
  rw [run, bind_run, readsOnly_render]
  cases ((t.render files).run fs).1 with
  | error e =>
    constructor
    · intro h
      cases h
    · rintro ⟨-, text, htext, -⟩
      cases htext
  | ok text =>
    dsimp only
    rw [bind_run]
    constructor
    · intro h
      rcases hreplace : (files.replace t.output (Text.Utf8.encode text)).run fs with ⟨⟨path, e⟩ | _, fs₁⟩
      · rw [hreplace] at h
        cases h
      · rw [hreplace] at h
        cases h
        exact ⟨rfl, text, rfl, hreplace⟩
    · rintro ⟨rfl, _, htext, hreplace⟩
      cases htext
      rw [hreplace]
      rfl

/-- A task that is refused reads and writes nothing. -/
theorem run_of_invalid {t : Task} {e : TaskError} (h : t.validate = .error e) (fs : FileSystem) :
    (t.run files).run fs = (.error e, fs) := by
  unfold run render
  rw [h]
  rfl

/-- The bundle that a run leaves behind, and its entries. -/
structure Written (t : Task) (fs fs' : FileSystem) (b : Bundle) (entries : List (String × String)) : Prop where
  accepted : Bundle.new t.ns = .ok b
  /-- The sources are compiled in order, and make the entries. -/
  compiled : ∃ c, t.compiler = .ok c ∧ Compiles fs c t.sources entries
  stored : fs'.readBytes t.output = .ok (Text.Utf8.encode (b.pushAll entries).finish)

theorem written_of_replace {t : Task} {fs fs' : FileSystem} {b : Bundle} {c : TaskCompiler}
    {entries : List (String × String)} (hnew : Bundle.new t.ns = .ok b) (hcompiler : t.compiler = .ok c)
    (hcompiles : Compiles fs c t.sources entries)
    (h : (files.replace t.output (Text.Utf8.encode (b.pushAll entries).finish)).run fs = (.ok (), fs')) :
    Written t fs fs' b entries := by
  obtain ⟨location, hlocate, -, -, hnode⟩ := replace_ok h
  refine ⟨hnew, ⟨c, hcompiler, hcompiles⟩, ?_⟩
  apply readBytes_eq_ok.2 ⟨location, hlocate, ?_⟩
  rw [hnode, if_pos rfl]

/-- A run that succeeds answers the number of its sources and leaves a bundle behind. -/
theorem exists_written {t : Task} {fs fs' : FileSystem} {n : Nat} (h : (t.run files).run fs = (.ok n, fs')) :
    n = t.sources.length ∧ ∃ b entries, Written t fs fs' b entries := by
  obtain ⟨hn, text, hrender, hreplace⟩ := run_eq_ok.1 h
  obtain ⟨-, b, c, entries, hnew, hcompiler, hcompiles, rfl⟩ := render_eq_ok.1 hrender
  exact ⟨hn, b, entries, written_of_replace hnew hcompiler hcompiles hreplace⟩

/-- A run succeeds if its sources can be compiled and the bundle can be put in its place. -/
theorem exists_run {t : Task} {fs : FileSystem} {b : Bundle} {c : TaskCompiler} {entries : List (String × String)}
    (hvalid : t.validate = .ok ()) (hnew : Bundle.new t.ns = .ok b) (hcompiler : t.compiler = .ok c)
    (hcompiles : Compiles fs c t.sources entries)
    (h : ∀ bytes, ((files.replace t.output bytes).run fs).1 = .ok ()) :
    ∃ fs', (t.run files).run fs = (.ok t.sources.length, fs') ∧ Written t fs fs' b entries := by
  rcases hreplace : (files.replace t.output (Text.Utf8.encode (b.pushAll entries).finish)).run fs with ⟨answer, fs'⟩
  obtain rfl : answer = .ok () := by
    rw [← h (Text.Utf8.encode (b.pushAll entries).finish), hreplace]
  have hrender := render_eq_ok.2 ⟨hvalid, b, c, entries, hnew, hcompiler, hcompiles, rfl⟩
  exact ⟨fs', run_eq_ok.2 ⟨rfl, _, hrender, hreplace⟩, written_of_replace hnew hcompiler hcompiles hreplace⟩

/-! ## The compiler of a task -/

/-- Settings that are accepted are those of the compiler. -/
theorem compiler_eq {t : Task} {d : Delimiters} (h : Delimiters.standard.configure t.settings = (d, none)) :
    t.compiler = .ok (loadedCompiler d) := by
  -- the definition is unfolded as a function: applied to a task, it would have the kernel load the library
  have hunfold : ∀ f, f = compiler → f t = .ok (loadedCompiler d) := by
    intro f hf
    delta compiler at hf
    rw [hf, Template.loadEmbedded_eq]
    dsimp only
    rw [Template.configure_loaded h]
  exact hunfold compiler rfl

/-- A template that need not be run leaves the compiler as it is. -/
theorem compileText_loaded {d : Delimiters} {text : String} {answer : Except HostError String}
    (h : outcome? d text = some answer) : compileText (loadedCompiler d) text = (answer, loadedCompiler d) := by
  unfold compileText
  rw [Template.compile_loaded h]

end ScriptHost.Task
