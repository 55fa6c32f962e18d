import ScriptHost.CommandLine
import ScriptHost.Proofs.Rendering

/-!
# Options, configuration and defaults

Five things can be set by an option, or else in a configuration file, and have a default if nothing or an empty
text is set.  Each is chosen for itself, and the delimiters that are chosen are those with which all sources of the
task are compiled, as long as no template has to be run.

* `Config.Key` — what can be set, with what a line of a configuration file sets.
* `Config.get_read` — **the last well-formed line for a key counts**.
* `Arguments.chosen?` — the option, or else the configuration.
* `Arguments.task_layers` — **what becomes of the choices**.
-/

namespace ScriptHost

open ScriptHost.FileSystem
open Template (Delimiters Settings loadedCompiler outcome?)

/-! ## Lines of a configuration file -/

namespace Config

/-- What can be set both by options and in a configuration file. -/
inductive Key where
  | ns | output | interpolate | evaluate | escape
deriving DecidableEq

namespace Key

/-- How a key is written. -/
def text : Key → String
  | ns => "namespace"
  | output => "output"
  | interpolate => "interpolate"
  | evaluate => "evaluate"
  | escape => "escape"

/-- The key of a name, in whatever case. -/
def ofName? (name : String) : Option Key :=
  [ns, output, interpolate, evaluate, escape].find? fun key => key.text == name.map Char.toLower

/-- The option for a key. -/
def option : Key → ValueOption
  | ns => .ns
  | output => .output
  | interpolate => .interpolate
  | evaluate => .evaluate
  | escape => .escape

end Key

/-- What is set for a key. -/
def get (c : Config) : Key → Option String
  | .ns => c.ns
  | .output => c.output
  | .interpolate => c.settings.interpolate
  | .evaluate => c.settings.evaluate
  | .escape => c.settings.escape

/-- The key and the value of a well-formed line. -/
def setting? (raw : String) : Option (Key × String) :=
  let line := (Text.trim raw).toList
  if line.head? = some ';' ∨ line.head? = some '#' then none
  else do
    let (name, value) ← splitAssignment line
    let value ← (unquote (Text.trim (String.ofList value))).toOption
    return (← Key.ofName? (Text.trim (String.ofList name)), value)

/-- The value that a line sets for a key. -/
def valueIn? (key : Key) (raw : String) : Option String :=
  (setting? raw).bind fun s => if s.1 = key then some s.2 else none

/-- The value of the last line that sets a key. -/
def lastValue? (text : String) (key : Key) : Option String := ((Text.lines text).filterMap (valueIn? key)).getLast?

/-- A name sets the key that it stands for, and no other one. -/
theorem set?_cases (c : Config) (name value : String) :
    (Key.ofName? name = none ∧ c.set? name value = none) ∨ ∃ key c', Key.ofName? name = some key
      ∧ c.set? name value = some c' ∧ ∀ k, c'.get k = if key = k then some value else c.get k := by
  have hkey (key : Key) (h : name.map Char.toLower = key.text) : Key.ofName? name = some key := by
    unfold Key.ofName?
    rw [h]
    cases key <;> decide
  unfold set?
  split
  · next h => exact .inr ⟨.ns, _, hkey .ns h, rfl, fun k => by cases k <;> rfl⟩
  · next h => exact .inr ⟨.output, _, hkey .output h, rfl, fun k => by cases k <;> rfl⟩
  · next h => exact .inr ⟨.interpolate, _, hkey .interpolate h, rfl, fun k => by cases k <;> rfl⟩
  · next h => exact .inr ⟨.evaluate, _, hkey .evaluate h, rfl, fun k => by cases k <;> rfl⟩
  · next h => exact .inr ⟨.escape, _, hkey .escape h, rfl, fun k => by cases k <;> rfl⟩
  · next hns houtput hinterpolate hevaluate hescape =>
    refine .inl ⟨?_, rfl⟩
    rw [Key.ofName?, List.find?_eq_none]
    intro key _ heq
    have hname : key.text = name.map Char.toLower := by simpa using heq
    cases key with
    | ns => exact hns hname.symm
    | output => exact houtput hname.symm
    | interpolate => exact hinterpolate hname.symm
    | evaluate => exact hevaluate hname.symm
    | escape => exact hescape hname.symm

/-- A line that sets a key changes that key only; every other line changes nothing. -/
theorem get_readLine (c : Config) (raw : String) (k : Key) :
    ((readLine c raw).toOption.getD c).get k = (valueIn? k raw).or (c.get k) := by
  unfold valueIn? setting? readLine
  cases hline : (Text.trim raw).toList with
  | nil =>
    have hsplit : splitAssignment [] = none := rfl
    simp [hline, hsplit, Except.toOption]
  | cons first rest =>
    simp only [hline, List.head?_cons, Option.some.injEq]
    by_cases hcomment : first = ';' ∨ first = '#'
    · simp [hcomment, Except.toOption]
    · rw [if_neg hcomment, if_neg hcomment]
      cases splitAssignment (first :: rest) with
      | none => simp [Except.toOption]
      | some assignment =>
        obtain ⟨name, value⟩ := assignment
        cases hvalue : unquote (Text.trim (String.ofList value)) with
        | error message => simp [hvalue, Except.toOption, bind, Except.bind]
        | ok value =>
          obtain ⟨hname, hset⟩ | ⟨key, c', hname, hset, hget⟩ := set?_cases c (Text.trim (String.ofList name)) value
          · simp [hvalue, hname, hset, Except.toOption, bind, Except.bind]
          · by_cases hkey : key = k
            · simp [hvalue, hname, hset, hget, hkey, Except.toOption, bind, Except.bind]
            · simp [hvalue, hname, hset, hget, hkey, Except.toOption, bind, Except.bind]

/-- The last line for a key counts. -/
theorem get_readLines (c : Config) (n : Nat) (lines : List String) (k : Key) :
    (readLines c n lines).1.get k = ((lines.filterMap (valueIn? k)).getLast?).or (c.get k) := by
  induction lines generalizing c n with
  | nil => rfl
  | cons raw rest ih =>
    have hline := get_readLine c raw k
    have hstep : (readLines c n (raw :: rest)).1 = (readLines ((readLine c raw).toOption.getD c) (n + 1) rest).1 := by
      rw [readLines]
      cases readLine c raw <;> rfl
    rw [hstep, ih, hline, List.filterMap_cons]
    cases valueIn? k raw with
    | none => rfl
    | some value =>
      rw [List.getLast?_cons]
      cases (rest.filterMap (valueIn? k)).getLast? <;> rfl

theorem get_read (text : String) (k : Key) : (read text).1.get k = lastValue? text k := by
  have hnone : ({} : Config).get k = none := by cases k <;> rfl
  rw [read, get_readLines, hnone, Option.or_none, lastValue?]

end Config

/-! ## Choices -/

namespace Arguments

/-- What is chosen for a key: the value of the option, or else that of the configuration. -/
def chosen? (a : Arguments) (text : String) (key : Config.Key) : Option String :=
  (a.valueOf key.option).or (Config.lastValue? text key)

/-- What is chosen for a key, or a default in place of nothing and of an empty text. -/
def chosen (a : Arguments) (text : String) (key : Config.Key) (default : String) : String :=
  ((a.chosen? text key).filter (!·.isEmpty)).getD default

/-- The delimiters that are chosen. -/
def delimiters (a : Arguments) (text : String) : Delimiters where
  escape := a.chosen text .escape Delimiters.standard.escape
  interpolate := a.chosen text .interpolate Delimiters.standard.interpolate
  evaluate := a.chosen text .evaluate Delimiters.standard.evaluate

/-- Each key of the task has what is chosen for it. -/
theorem task_eq (a : Arguments) (text : String) : a.task (Config.read text).1
    = { sources := a.sources, output := (a.chosen? text .output).getD "", ns := (a.chosen? text .ns).getD "",
        settings := ⟨a.chosen? text .interpolate, a.chosen? text .evaluate, a.chosen? text .escape⟩ } := by
  have hread (key : Config.Key) : (a.valueOf key.option).or ((Config.read text).1.get key) = a.chosen? text key := by
    rw [Config.get_read, chosen?]
  rw [← hread .output, ← hread .ns, ← hread .interpolate, ← hread .evaluate, ← hread .escape]
  rfl

end Arguments

/-! ## Delimiters of a task -/

namespace Template.Delimiters

/-- Delimiters that are regular expressions are accepted. -/
theorem configureAll_of_valid {d : Delimiters} {changes : List (String × (Delimiters → Delimiters))}
    (h : ∀ change ∈ changes, faultOf? change.1 = none) : ∃ d', d.configureAll changes = (d', none) := by
  induction changes generalizing d with
  | nil => exact ⟨d, rfl⟩
  | cons change rest ih =>
    obtain ⟨hchange, hrest⟩ := List.forall_mem_cons.1 h
    obtain ⟨d', hd⟩ := ih (d := change.2 d) hrest
    refine ⟨d', ?_⟩
    rw [configureAll, hchange]
    exact hd

/-- Settings whose patterns are regular expressions replace the delimiters for which they give a pattern. -/
theorem configure_of_valid {d : Delimiters} {s : Settings}
    (h : ∀ setting ∈ [s.interpolate, s.evaluate, s.escape], ∀ p ∈ setting, p.isEmpty = false → faultOf? p = none) :
    d.configure s = (⟨(s.escape.filter (!·.isEmpty)).getD d.escape,
      (s.interpolate.filter (!·.isEmpty)).getD d.interpolate,
      (s.evaluate.filter (!·.isEmpty)).getD d.evaluate⟩, none) := by
  have hchange {setting : Option String} (hsetting : setting ∈ [s.interpolate, s.evaluate, s.escape])
      (f : String → Delimiters → Delimiters) : ∀ c ∈ change setting f, faultOf? c.1 = none := by
    intro c hc
    unfold change at hc
    cases hp : setting.filter (!·.isEmpty) with
    | none =>
      rw [hp] at hc
      cases hc
    | some p =>
      rw [hp, List.mem_singleton] at hc
      obtain ⟨hmem, hne⟩ := Option.filter_eq_some_iff.1 hp
      rw [hc]
      exact h setting hsetting p hmem (by simpa using hne)
  have hvalid : ∀ c ∈ changes s, faultOf? c.1 = none := by
    intro c hc
    rw [changes, List.mem_append, List.mem_append] at hc
    obtain (hc | hc) | hc := hc
    · exact hchange (by simp) _ c hc
    · exact hchange (by simp) _ c hc
    · exact hchange (by simp) _ c hc
  obtain ⟨d', hd⟩ := configureAll_of_valid (d := d) hvalid
  have hslot (slot : Settings → Option String) (default : String) :
      (lastGiven? slot [.configure s]).getD default = ((slot s).filter (!·.isEmpty)).getD default := by
    cases hgiven : (slot s).filter (!·.isEmpty) <;> simp [lastGiven?, Order.given?, hgiven]
  rw [configure, hd, configure_eq hd, inForce, hslot, hslot, hslot]

end Template.Delimiters

namespace Task

/-- Sources that are compiled with the same delimiters. -/
def CompiledWith (d : Delimiters) (fs : FileSystem) : List String → List (String × String) → Prop :=
  List.Forall₂ fun path e => templateName path = .ok e.1 ∧ ∃ text, ((files.readText path).run fs).1 = .ok text
    ∧ outcome? d text = some (.ok e.2)

/-- As long as no template has to be run, all sources are compiled with the delimiters of the compiler. -/
theorem compiles_loaded {d : Delimiters} {fs : FileSystem} {paths : List String} {entries : List (String × String)}
    (h : ∀ path ∈ paths, ∀ text, ((files.readText path).run fs).1 = .ok text → (outcome? d text).isSome) :
    Compiles fs (loadedCompiler d) paths entries ↔ CompiledWith d fs paths entries := by
  induction paths generalizing entries with
  | nil =>
    constructor
    · intro hcompiles
      cases hcompiles
      exact .nil
    · intro hcompiled
      cases hcompiled
      exact .nil _
  | cons path rest ih =>
    obtain ⟨hpath, hrest⟩ := List.forall_mem_cons.1 h
    constructor
    · intro hcompiles
      cases hcompiles with
      | @cons _ c' _ name text source _ entries hname hread hcompile hentries =>
        obtain ⟨answer, hanswer⟩ := Option.isSome_iff_exists.1 (hpath text hread)
        cases (compileText_loaded hanswer).symm.trans hcompile
        exact .cons ⟨hname, text, hread, hanswer⟩ ((ih hrest).1 hentries)
    · intro hcompiled
      cases hcompiled with
      | cons hentry hentries =>
        obtain ⟨hname, text, hread, hanswer⟩ := hentry
        exact .cons hname hread (compileText_loaded hanswer) ((ih hrest).2 hentries)

end Task

/-! ## What becomes of the choices -/

/-- Each key of a task is chosen for itself: the option, or else the last well-formed line for it.  The sources are
those of the command line in order; the namespace is the one that is chosen, or `JST`; without an output nothing is
done.  If the patterns that are chosen are regular expressions, the delimiters are the patterns, where they are not
empty, and the standard ones elsewhere; and as long as no template has to be run, all sources are compiled with
them. -/
theorem Arguments.task_layers (a : Arguments) (text : String) {t : Task} (ht : a.task (Config.read text).1 = t) :
    t.sources = a.sources
    ∧ (∀ b, Bundle.new t.ns = .ok b → b.ns = a.chosen text .ns "JST")
    ∧ (a.sources ≠ [] → a.chosen text .output "" = "" → ∀ fs, (t.run files).run fs = (.error .noOutput, fs))
    ∧ ((∀ key ∈ [Config.Key.interpolate, .evaluate, .escape], ∀ p ∈ a.chosen? text key, p.isEmpty = false →
        Delimiters.faultOf? p = none) →
      t.compiler = .ok (loadedCompiler (a.delimiters text))
      ∧ ∀ fs, (∀ path ∈ a.sources, ∀ source, ((files.readText path).run fs).1 = .ok source →
          (outcome? (a.delimiters text) source).isSome) →
        ∀ rendered, ((t.render files).run fs).1 = .ok rendered ↔ t.validate = .ok () ∧ ∃ b entries,
          Bundle.new t.ns = .ok b ∧ Task.CompiledWith (a.delimiters text) fs a.sources entries
            ∧ (b.pushAll entries).finish = rendered) := by
  rw [task_eq] at ht
  subst ht
  have hempty (key : Config.Key) : a.chosen text key "" = (a.chosen? text key).getD "" := by
    unfold chosen
    cases hkey : a.chosen? text key with
    | none => rfl
    | some value => by_cases hvalue : value = "" <;> simp [Option.filter, hvalue]
  refine ⟨rfl, ?_, ?_, ?_⟩
  · intro b hnew
    obtain ⟨-, rfl⟩ := Bundle.new_eq_ok.1 hnew
    unfold chosen Bundle.namespaceOf
    cases hkey : a.chosen? text .ns with
    | none => rfl
    | some value => by_cases hvalue : value = "" <;> simp [Option.filter, hvalue]
  · intro hsources houtput fs
    rw [hempty] at houtput
    apply Task.run_of_invalid
    rw [houtput, Task.validate]
    simp [hsources]
  · intro hvalid
    have hconfigure : Delimiters.standard.configure ⟨a.chosen? text .interpolate, a.chosen? text .evaluate,
        a.chosen? text .escape⟩ = (a.delimiters text, none) := by
      apply Delimiters.configure_of_valid
      intro setting hsetting
      have hmem : setting ∈ [Config.Key.interpolate, .evaluate, .escape].map (a.chosen? text) := hsetting
      obtain ⟨key, hkey, rfl⟩ := List.mem_map.1 hmem
      exact hvalid key hkey
    have hcompiler := Task.compiler_eq (t := ⟨a.sources, (a.chosen? text .output).getD "",
      (a.chosen? text .ns).getD "", _⟩) hconfigure
    refine ⟨hcompiler, ?_⟩
    intro fs hquiet rendered
    rw [Task.render_eq_ok]
    constructor
    · rintro ⟨hvalidate, b, c, entries, hnew, hc, hcompiles, hfinish⟩
      cases hcompiler.symm.trans hc
      exact ⟨hvalidate, b, entries, hnew, (Task.compiles_loaded hquiet).1 hcompiles, hfinish⟩
    · rintro ⟨hvalidate, b, entries, hnew, hcompiled, hfinish⟩
      exact ⟨hvalidate, b, _, entries, hnew, hcompiler, (Task.compiles_loaded hquiet).2 hcompiled, hfinish⟩

end ScriptHost
