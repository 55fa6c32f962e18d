import ScriptHost.Proofs.Pages
import ScriptHost.Proofs.PlainTemplates
import ScriptHost.Proofs.Rendering

/-!
# What a run stores, and under which names

The name of a template is taken from the path of its source.  Sources of one name make entries of one name; nothing
compares them, and of the functions under a name the last one is found when the bundle has been loaded.

* `Task.run_stores_sources` — **a run stores all of its sources, under as many names as they have**.
* `Task.run_stores_namesakes` — a run that answers two and assigns one property.
-/

namespace ScriptHost

open ScriptHost.FileSystem
open Pages (Load Item Pushed Ready)
open Text (Units)

namespace Task

/-- As many names as entries are stored if no two entries have one name. -/
theorem length_dedup_eq {names : List String} : names.dedup.length = names.length ↔ names.Nodup := by
  constructor
  · intro h
    rw [← List.dedup_eq_self]
    exact (List.dedup_sublist names).eq_of_length h
  · intro h
    rw [List.dedup_eq_self.2 h]

/-- The number that a run answers is that of its sources, and of the entries of the bundle, whose names are those of
the sources in order.  So many properties are assigned as there are different names: fewer, if two sources have one
name.  When the bundle is loaded, the last function under a name is found, so every function if no two sources have
one name. -/
theorem run_stores_sources {t : Task} {fs fs' : FileSystem} {n : Nat} (h : (t.run files).run fs = (.ok n, fs')) :
    ∃ b entries, Written t fs fs' b entries ∧ n = t.sources.length ∧ (b.pushAll entries).count = n
      ∧ t.sources.map templateName = (entries.map (·.1)).map .ok
      ∧ ((entries.map (·.1)).dedup.length = n ↔ (t.sources.map templateName).Nodup)
      ∧ ∀ (α : Type) (fresh : α) (load : Load α) (page : Item α), load.bundle = b →
        (load.entries.map fun e => (e.name, e.code)) = entries → Ready page load.path →
        ∃ page', load.run? fresh page = some page' ∧ ∀ older (e : Pushed α) newer, load.entries = older ++ e :: newer →
          ((∀ e' ∈ newer, e'.name ≠ e.name) ∨ (t.sources.map templateName).Nodup) →
          ∀ below, page'.content? (load.path ++ e.name :: below) = e.value.content? below := by
  obtain ⟨hn, b, entries, hwritten⟩ := exists_written h
  obtain ⟨c, -, hcompiles⟩ := hwritten.compiled
  have hnames : t.sources.map templateName = (entries.map (·.1)).map .ok := by
    rw [hcompiles.names, List.map_map]
    rfl
  have hlength : entries.length = n := by
    have := congrArg List.length hnames
    simpa [← hn] using this.symm
  have hnodup : (t.sources.map templateName).Nodup ↔ (entries.map (·.1)).Nodup := by
    rw [hnames]
    exact List.nodup_map_iff fun _ _ h => Except.ok.inj h
  obtain ⟨-, hb⟩ := Bundle.new_eq_ok.1 hwritten.accepted
  refine ⟨b, entries, hwritten, hn, ?_, hnames, ?_, ?_⟩
  · rw [Bundle.pushAll_eq, hb, ← hlength]
    exact Nat.zero_add _
  · rw [hnodup, ← length_dedup_eq, List.length_map, hlength]
  · intro α fresh load page _ hentries hready
    obtain ⟨page', hrun, hextends⟩ := load.exists_run fresh hready
    refine ⟨page', hrun, ?_⟩
    intro older e newer hload hlast
    apply hextends.pushed older e newer hload
    intro e' he' hsame
    cases hlast with
    | inl hlast => exact hlast e' he' hsame
    | inr hdistinct =>
      have hpairs : (load.entries.map fun e => e.name).Nodup := by
        have hpairs := hnodup.1 hdistinct
        rwa [← hentries, List.map_map] at hpairs
      rw [hload, List.map_append, List.map_cons, List.nodup_append] at hpairs
      exact (List.nodup_cons.1 hpairs.2.1).1 (hsame ▸ List.mem_map_of_mem he')

end Task

/-! ## A run on two sources of one name -/

namespace Task

/-- Two templates of one name, each in a directory of its own, and a third template. -/
def twoDirectories : FileSystem where
  root := .directory [("a", .directory [("x.tpl", .file [0x31])]), ("b", .directory [("x.tpl", .file [0x32])]),
    ("y.tpl", .file [0x31])]

/-- A task for sources there. -/
def fromDirectories (sources : List String) : Task := { sources, output := "o.js", ns := "", settings := {} }

/-- A source whose text is a digit. -/
theorem Compiles.digit {name : String} {rest : List String} {entries : List (String × String)}
    (h : Compiles twoDirectories (Template.loadedCompiler .standard) rest entries) (path text : String)
    (htext : text ∈ ["1", "2"]) (hname : templateName path = .ok name)
    (hread : ((files.readText path).run twoDirectories).1 = .ok text) :
    Compiles twoDirectories (Template.loadedCompiler .standard) (path :: rest)
      ((name, Template.plainFunction text) :: entries) :=
  .cons hname hread (compileText_loaded (Template.outcome?_digit htext)) h

theorem exists_run_fromDirectories {sources : List String} {entries : List (String × String)}
    (hvalid : (fromDirectories sources).validate = .ok ())
    (h : Compiles twoDirectories (Template.loadedCompiler .standard) sources entries) :
    ∃ fs' b, ((fromDirectories sources).run files).run twoDirectories = (.ok sources.length, fs')
      ∧ Written (fromDirectories sources) twoDirectories fs' b entries := by
  have hcompiler : (fromDirectories sources).compiler = .ok (Template.loadedCompiler .standard) := compiler_eq rfl
  have hnew : Bundle.new "" = .ok _ := Bundle.new_eq_ok.2 ⟨by decide +kernel, rfl⟩
  have hreplace (bytes : List UInt8) : ((files.replace "o.js" bytes).run twoDirectories).1 = .ok () := rfl
  obtain ⟨fs', hrun, hwritten⟩ := exists_run hvalid hnew hcompiler h hreplace
  exact ⟨fs', _, hrun, hwritten⟩

theorem run_stores_sources_apart : ∃ fs', ((fromDirectories ["a/x.tpl", "y.tpl"]).run files).run twoDirectories
      = (.ok 2, fs')
    ∧ ∃ b entries, Written (fromDirectories ["a/x.tpl", "y.tpl"]) twoDirectories fs' b entries
      ∧ (b.pushAll entries).count = 2 ∧ (entries.map (·.1)).dedup.length = 2
      ∧ ∃ load : Load String, load.text = (b.pushAll entries).finish
        ∧ ∃ page', load.run? "new" (.object "global" []) = some page' ∧ ∀ e ∈ load.entries,
          page'.content? (load.path ++ [e.name]) = some (.object e.code) := by
  have hcompiles := ((Compiles.nil _).digit "y.tpl" "1" (by simp) rfl rfl).digit "a/x.tpl" "1" (by simp) rfl rfl
  obtain ⟨fs', -, hrun, -⟩ := exists_run_fromDirectories rfl hcompiles
  obtain ⟨b, entries, hwritten, -, hcount, -, hdistinct, hloads⟩ := run_stores_sources hrun
  have hnames : (["a/x.tpl", "y.tpl"].map templateName).Nodup := by
    have hvalues : ["a/x.tpl", "y.tpl"].map templateName = [.ok "x", .ok "y"] := rfl
    rw [hvalues]
    decide
  refine ⟨fs', hrun, b, entries, hwritten, hcount, hdistinct.2 hnames, ?_⟩
  let load : Load String := ⟨b, ⟨_, hwritten.accepted⟩, entries.map fun e => ⟨e.1, e.2, .object e.2 []⟩⟩
  have hentries : (load.entries.map fun e => (e.name, e.code)) = entries := by simp [load, Function.comp_def]
  have hempty : (Item.object "global" []).OnlyObjects := Item.onlyObjects_of_isEmptyObject rfl
  obtain ⟨page', hload, hfound⟩ := hloads String "new" load _ rfl hentries (hempty.ready load.path)
  refine ⟨load, congrArg (fun es => (b.pushAll es).finish) hentries, page', hload, ?_⟩
  intro e he
  obtain ⟨older, newer, hsplit⟩ := List.append_of_mem he
  obtain ⟨pushed, -, rfl⟩ := List.mem_map.1 he
  exact hfound older _ newer hsplit (.inr hnames) []

/-- A run answers two, and its bundle assigns one property twice. -/
theorem run_stores_namesakes : ∃ fs' b, ((fromDirectories ["a/x.tpl", "b/x.tpl"]).run files).run twoDirectories
      = (.ok 2, fs')
    ∧ Written (fromDirectories ["a/x.tpl", "b/x.tpl"]) twoDirectories fs' b
      [("x", Template.plainFunction "1"), ("x", Template.plainFunction "2")]
    ∧ ([("x", Template.plainFunction "1"), ("x", Template.plainFunction "2")].map (·.1)).dedup.length = 1 := by
  have hcompiles := ((Compiles.nil _).digit "b/x.tpl" "2" (by simp) rfl rfl).digit "a/x.tpl" "1" (by simp) rfl rfl
  obtain ⟨fs', b, hrun, hwritten⟩ := exists_run_fromDirectories rfl hcompiles
  exact ⟨fs', b, hrun, hwritten, rfl⟩

end Task

end ScriptHost
