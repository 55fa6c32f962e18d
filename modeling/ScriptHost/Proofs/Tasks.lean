import ScriptHost.Proofs.Replacement
import ScriptHost.Task

/-!
# Tasks change all or nothing

A task reads its sources, and at its end puts one file in its place.

* `FileSystem.ReadsOnly` — programs that leave a file system as it is.
* `Task.run_all_or_nothing` — **a run that fails changes nothing, and one that succeeds changes the
  output file only**, whatever fails on the way.
* `Task.run_keeps_sources` — which sources a run keeps.
-/

namespace ScriptHost

open ScriptHost.Tree

/-! ## Programs that read only -/

namespace FileSystem

theorem bind_run {α β : Type} (program : StateM FileSystem α) (next : α → StateM FileSystem β)
    (fs : FileSystem) : (program >>= next).run fs
      = (next (program.run fs).1).run (program.run fs).2 := rfl

/-- Whether a program leaves every file system as it is. -/
def ReadsOnly {α : Type} (program : StateM FileSystem α) : Prop :=
  ∀ fs, (program.run fs).2 = fs

namespace ReadsOnly

variable {α β : Type} {program : StateM FileSystem α} {next : α → StateM FileSystem β}

theorem pure (a : α) : ReadsOnly (Pure.pure a : StateM FileSystem α) := fun _ => rfl

theorem bind (h : ReadsOnly program) (hnext : ∀ a, ReadsOnly (next a)) :
    ReadsOnly (program >>= next) := fun fs => by rw [bind_run, hnext, h]

theorem read (path : String) : ReadsOnly (files.read path) := fun _ => rfl

theorem readText (path : String) : ReadsOnly (files.readText path) :=
  bind (read path) fun answer => by
    cases answer with
    | error e => exact pure _
    | ok bytes =>
      dsimp only
      cases Text.Utf8.decode? bytes <;> exact pure _

end ReadsOnly

end FileSystem

namespace Task

open FileSystem

theorem readsOnly_addSource (c : TaskCompiler) (b : Bundle) (path : String) :
    ReadsOnly (addSource files c b path) := by
  unfold addSource
  cases templateName path with
  | error e => exact .pure _
  | ok name =>
    refine .bind (.readText path) fun answer => ?_
    cases answer with
    | error e => exact .pure _
    | ok text =>
      rcases h : compileText c text with ⟨e | source, c'⟩
      all_goals
        simp only [h]
        exact .pure _

theorem readsOnly_addSources (c : TaskCompiler) (b : Bundle) (paths : List String) :
    ReadsOnly (addSources files c b paths) := by
  induction paths generalizing c b with
  | nil => exact .pure _
  | cons path rest ih =>
    refine .bind (readsOnly_addSource c b path) fun answer => ?_
    cases answer with
    | error e => exact .pure _
    | ok next => exact ih next.1 next.2

/-- The text of a bundle is found without a change to any file. -/
theorem readsOnly_render (t : Task) : ReadsOnly (t.render files) := by
  unfold render
  cases t.validate with
  | error e => exact .pure _
  | ok _ => cases Bundle.new t.ns with
    | error e => exact .pure _
    | ok b => cases t.compiler with
      | error e => exact .pure _
      | ok c =>
        refine .bind (readsOnly_addSources c b t.sources) fun answer => ?_
        cases answer <;> exact .pure _

/-- The text that a task renders is that of a bundle. -/
theorem bundle_of_render {t : Task} {fs : FileSystem} {text : String}
    (h : ((t.render files).run fs).1 = .ok text) : ∃ b : Bundle, text = b.finish := by
  unfold render at h
  cases hvalid : t.validate with
  | error e => rw [hvalid] at h; cases h
  | ok _ => cases hnew : Bundle.new t.ns with
    | error e => rw [hvalid, hnew] at h; cases h
    | ok b => cases hcompiler : t.compiler with
      | error e => rw [hvalid, hnew, hcompiler] at h; cases h
      | ok c =>
        rw [hvalid, hnew, hcompiler] at h
        dsimp only at h
        rw [bind_run] at h
        cases hsources : ((addSources files c b t.sources).run fs).1 with
        | error e => rw [hsources] at h; cases h
        | ok b =>
          rw [hsources] at h
          cases h
          exact ⟨b, rfl⟩

/-- A run fails and changes nothing, or it renders the bundle and puts it in its place. -/
theorem run_cases (t : Task) (fs : FileSystem) :
    (∃ e, (t.run files).run fs = (.error e, fs)) ∨
      ∃ text fs', ((t.render files).run fs).1 = .ok text
        ∧ (files.replace t.output (Text.Utf8.encode text)).run fs = (.ok (), fs')
        ∧ (t.run files).run fs = (.ok t.sources.length, fs') := by
  rw [run, bind_run, readsOnly_render]
  cases ((t.render files).run fs).1 with
  | error e => exact .inl ⟨e, rfl⟩
  | ok text =>
    dsimp only
    rw [bind_run]
    rcases hreplace : (files.replace t.output (Text.Utf8.encode text)).run fs with
      ⟨⟨path, e⟩ | _, fs'⟩
    · obtain rfl := replace_error hreplace
      exact .inl ⟨.io path e, rfl⟩
    · exact .inr ⟨text, fs', rfl, hreplace, rfl⟩

/-- A run that fails, at whatever step, leaves the file system as it was.  One that succeeds answers the
number of sources; the output path then names a file with the rendered text, and nothing has changed at
any other place. -/
theorem run_all_or_nothing (t : Task) (fs : FileSystem) :
    match (t.run files).run fs with
    | (.error _, fs') => fs' = fs
    | (.ok n, fs') => n = t.sources.length ∧ ∃ text location,
        ((t.render files).run fs).1 = .ok text
          ∧ fs'.locate t.output = .ok location
          ∧ fs'.readBytes t.output = .ok (Text.Utf8.encode text)
          ∧ (∀ l, fs'.root.node? l =
              if l = location then some (.file (Text.Utf8.encode text)) else fs.root.node? l)
          ∧ fs'.here = fs.here := by
  obtain ⟨e, hrun⟩ | ⟨text, fs', hrender, hreplace, hrun⟩ := run_cases t fs
  · rw [hrun]
  · rw [hrun]
    obtain ⟨location, hlocate, heq, -, hnode⟩ := replace_ok hreplace
    have hfile : fs'.root.node? location = some (.file (Text.Utf8.encode text)) := by
      rw [hnode, if_pos rfl]
    exact ⟨rfl, text, location, hrender, hlocate, readBytes_eq_ok.2 ⟨location, hlocate, hfile⟩, hnode,
      by rw [heq]⟩

/-! ## Sources -/

/-- The output of an accepted task is written unlike any source. -/
theorem ne_output_of_validate {t : Task} {source : String} (h : t.validate = .ok ())
    (hsource : source ∈ t.sources) : source ≠ t.output := by
  rintro rfl
  have hsame : (t.sources.any fun s => Text.Case.lowercase s == Text.Case.lowercase t.output) = true :=
    List.any_eq_true.2 ⟨t.output, hsource, by simp⟩
  unfold validate at h
  simp only [hsame, if_true] at h
  split_ifs at h

/-- A run that fails keeps all sources.  One that succeeds overwrites a source with the bundle if the output
path is written for the same location, and only then.  An accepted task has no such source among those that
are written, as is the output, without detours and from the same start. -/
theorem run_keeps_sources {t : Task} {fs : FileSystem} {source : String} {bytes : List UInt8}
    (hsource : source ∈ t.sources) (hread : fs.readBytes source = .ok bytes) :
    (match (t.run files).run fs with
      | (.error _, fs') => fs'.readBytes source = .ok bytes
      | (.ok _, fs') => ∃ text, ((t.render files).run fs).1 = .ok text ∧ fs'.readBytes source
          = .ok (if fs.resolve source = fs.resolve t.output then Text.Utf8.encode text else bytes))
    ∧ (t.validate = .ok () → IsPlain source → IsPlain t.output → (IsRooted source ↔ IsRooted t.output) →
        fs.resolve source ≠ fs.resolve t.output) := by
  constructor
  · obtain ⟨e, hrun⟩ | ⟨text, fs', hrender, hreplace, hrun⟩ := run_cases t fs
    · rw [hrun]
      exact hread
    · rw [hrun]
      exact ⟨text, hrender, readBytes_of_replace hreplace hread⟩
  · intro hvalid hplain houtput hroot hsame
    exact ne_output_of_validate hvalid hsource (eq_of_resolve_plain hplain houtput hroot hsame)

/-- A task for one source. -/
def toOutput (output : String) : Task := { sources := ["a.js"], output, ns := "", settings := {} }

/-- The bytes of `Hello`. -/
def hello : List UInt8 := [0x48, 0x65, 0x6C, 0x6C, 0x6F]

/-- A file system in which the source is all there is. -/
def withHello : FileSystem := { root := .directory [("a.js", .file hello)] }

theorem run_keeps_sources_beside_output : "a.js" ∈ (toOutput "b.js").sources
    ∧ withHello.readBytes "a.js" = .ok hello
    ∧ (((toOutput "b.js").run files).run withHello).2.readBytes "a.js" = .ok hello := by
  have hsource : "a.js" ∈ (toOutput "b.js").sources := by decide
  have hread : withHello.readBytes "a.js" = .ok hello := by rfl
  refine ⟨hsource, hread, ?_⟩
  obtain ⟨hkept, hother⟩ := run_keeps_sources hsource hread
  simp only [if_neg (hother (by rfl) (by decide) (by decide) (by decide))] at hkept
  revert hkept
  split
  · next hrun =>
    rw [hrun]
    exact id
  · next hrun =>
    rw [hrun]
    rintro ⟨text, -, hsame⟩
    exact hsame

/-- The text of a bundle is longer than the source. -/
theorem encode_finish_ne_hello (b : Bundle) : Text.Utf8.encode b.finish ≠ hello := by
  intro h
  have hfirst (first middle last : String) :
      first.utf8ByteSize ≤ (first ++ middle ++ last).utf8ByteSize := by
    rw [String.utf8ByteSize_append, String.utf8ByteSize_append, Nat.add_assoc]
    exact Nat.le_add_right _ _
  have hlong : 20 ≤ b.finish.utf8ByteSize := hfirst "(function(global) \x7b\n" b.body "\n\x7d)(this);"
  rw [← Text.Utf8.length_encode, h] at hlong
  exact absurd hlong (by decide)

/-- A task is accepted whose output path leads to its source by a detour, and a run that succeeds
overwrites the source. -/
theorem run_overwrites_source_by_detour : (toOutput "./a.js").validate = .ok ()
    ∧ "a.js" ∈ (toOutput "./a.js").sources
    ∧ withHello.locate "a.js" = .ok ["a.js"] ∧ withHello.locate (toOutput "./a.js").output = .ok ["a.js"]
    ∧ withHello.readBytes "a.js" = .ok hello
    ∧ ∀ n fs', ((toOutput "./a.js").run files).run withHello = (.ok n, fs') →
        fs'.readBytes "a.js" ≠ .ok hello := by
  have hsource : withHello.locate "a.js" = .ok ["a.js"] := by rfl
  have houtput : withHello.locate (toOutput "./a.js").output = .ok ["a.js"] := by rfl
  have hread : withHello.readBytes "a.js" = .ok hello := by rfl
  refine ⟨by rfl, by decide, hsource, houtput, hread, fun n fs' hok => ?_⟩
  obtain ⟨e, hrun⟩ | ⟨text, fs₁, hrender, hreplace, hrun⟩ := run_cases (toOutput "./a.js") withHello
  · cases hrun.symm.trans hok
  · cases hrun.symm.trans hok
    obtain ⟨b, rfl⟩ := bundle_of_render hrender
    have hsame : withHello.resolve "a.js" = withHello.resolve (toOutput "./a.js").output :=
      (locate_eq_resolve hsource).symm.trans (locate_eq_resolve houtput)
    rw [readBytes_of_replace hreplace hread, if_pos hsame]
    exact fun h => encode_finish_ne_hello b (Except.ok.inj h)

end Task

end ScriptHost
