import ScriptHost.Languages
import ScriptHost.Proofs.Bonds
import ScriptHost.Template.Compiler

/-!
# What a compiler remembers

A compiler is a session with the library loaded.  While the library answers directly, a call changes nothing
but the delimiters, so a template is compiled as if the last patterns of each kind had been given to a new
compiler.  A template whose code leaves its function is run by the scripts, and from then on anything may
have changed.

* `loadedCompiler` — the compiler that has certain delimiters and is otherwise as new.
* `compile_loaded`, `configure_loaded` — it answers, and is such a compiler again.
* `Followed` — histories in which no template is run.
* `compile_independent` — **after such a history, compiling depends on the text and the delimiters in force**.
-/

namespace ScriptHost.Template

open Text (Units)

/-! ## Settings on their way to the library -/

namespace Settings

/-- The settings that replace something. -/
def given (s : Settings) : Settings :=
  ⟨s.interpolate.filter (!·.isEmpty), s.evaluate.filter (!·.isEmpty), s.escape.filter (!·.isEmpty)⟩

theorem settings?_toValue (s : Settings) : Library.settings? [s.toValue] = some s.given := by
  simp only [toValue, entries, given, List.filterMap_cons, List.filterMap_nil]
  generalize s.interpolate.filter (!·.isEmpty) = interpolate
  generalize s.evaluate.filter (!·.isEmpty) = evaluate
  generalize s.escape.filter (!·.isEmpty) = escape
  have hlookup {entries : List (String × Value)} {name key : String} {v : Value} :
      (Value.object (Value.insertEntry name v entries)).get? key
        = if key = name then some v else (Value.object entries).get? key := Value.lookup_insertEntry name v entries key
  have hnil (key : String) : (Value.object []).get? key = none := rfl
  cases interpolate <;> cases evaluate <;> cases escape <;>
    simp [Library.settings?, Library.setting?, Value.ofEntries, hlookup, hnil]

end Settings

/-! ## Compilers with the library loaded -/

/-- A compiler of the host. -/
abbrev HostCompiler := Compiler AnyState AnyDispatch

/-- The engine after a text has made the library known, with these delimiters. -/
def loadedEngine (text : String) (d : Delimiters) : AnyState :=
  .inl (.inl (.inr { scripts := .loaded d, holdsSite := true, phase := .connected, source := some text }))

/-- A dispatch of such an engine. -/
def loadedDispatch (text : String) : AnyDispatch := .inl (.inl (.inr { holdsSite := true, source := some text }))

/-- A compiler that holds both. -/
def loadedFrom (text : String) (d : Delimiters) : HostCompiler :=
  .ready ⟨some (loadedDispatch text)⟩ ⟨libraryLanguage, some (loadedEngine text d), some {}, .wide⟩

/-- A compiler whose library has these delimiters. -/
def loadedCompiler (d : Delimiters) : HostCompiler := loadedFrom librarySource d

theorem lookup_forTemplates : Registry.forTemplates.lookup libraryLanguage = some libraryFactory := by
  have hkeys : Registry.key libraryLanguage ≠ Registry.key "javascript" := by decide +kernel
  rw [Registry.lookup, Registry.forTemplates, Registry.register, Registry.lookup_insertEntry, if_neg hkeys,
    Registry.register, Registry.lookup_insertEntry, libraryLanguage, if_pos rfl]

/-- A text that makes the library known. -/
theorem load_eq {text : String} {d : Delimiters} {host : Host}
    (h : Library.execute text .empty host = (.ok (), .loaded d, host)) :
    Compiler.load languages .forTemplates libraryLanguage text .uninitialized host
      = (.ok (), loadedFrom text d, host) := by
  have hstart : Session.start languages .forTemplates libraryLanguage .wide host
      = (.ok ⟨libraryLanguage, some (.inl (.inl (.inr { Interpreted.State.new Library.interpreter with
          holdsSite := true, phase := .initialized }))), some {}, .wide⟩, host) := by
    unfold Session.start
    rw [if_neg (by decide), lookup_forTemplates]
    rfl
  unfold Compiler.load
  rw [hstart]
  simp [Session.parseModule, Session.connect, languages, Engine.sum, Engine.onEither, Engine.onLeft, Engine.onRight,
    Interpreted.engine, Interpreted.setState, Interpreted.State.new, Interpreted.parseText, Interpreted.whileOpen,
    Interpreted.bindPending, Interpreted.bindNames, Interpreted.run, Interpreted.tell, Context.tell, Session.update,
    Library.interpreter, h, loadedFrom, loadedDispatch, loadedEngine, Site.clear, Site.enter, Except.map]

/-- The embedded library is loaded with the standard delimiters. -/
theorem loadEmbedded_eq (host : Host) : Compiler.loadEmbedded languages .forTemplates .uninitialized host
    = (.ok (), loadedCompiler .standard, host) := by
  have hexecute : Library.execute librarySource .empty host = (.ok (), .loaded .standard, host) := by
    rw [Library.execute, if_pos rfl]
  exact load_eq hexecute

/-! ## Calls -/

/-- How an answer of the library reaches the host. -/
def told {α : Type} : Except Failure α → Except HostError α
  | .ok a => .ok a
  | .error (.raised report) => .error (.scriptFault { report with sourceText := some librarySource }.fault)
  | .error (.refused e) => .error (.nativeCallFailure e)

/-- The engine's part of a call that is answered directly. -/
theorem invokeMethod_loaded (text : String) {d d' : Delimiters} {name : String} {arg : Value} {call : Library.Call} {host : Host}
    {answer : Except Failure Value} (hcall : Library.call? name [arg] = some call)
    (hanswer : Library.call call (.loaded d) host = (answer, .loaded d', host)) :
    languages.invokeMethod (loadedDispatch text) name [arg] (loadedEngine text d) ⟨some {}, host⟩
      = match answer with
        | .ok v => (.ok v, loadedEngine text d', ⟨some {}, host⟩)
        | .error f =>
          let (e, c) := Interpreted.surface true (some text) ⟨some {}, host⟩ f
          (.error e, loadedEngine text d', c) := by
  simp only [languages, Engine.sum, loadedDispatch, loadedEngine, Engine.onDispatch, Engine.onLeft, Engine.onRight,
    Interpreted.engine, Interpreted.invoke, Interpreted.whileHeld, Interpreted.run, Interpreted.tell, Context.tell,
    Library.interpreter, Library.prepare, hcall, Bool.false_eq_true, if_false, if_true, Option.map_some, Site.enter,
    Site.clear, hanswer]
  cases answer with
  | ok v => rfl
  | error f => rfl

/-- A call that is answered directly changes nothing but the delimiters. -/
theorem invoke_loaded {d d' : Delimiters} {name : String} {arg : Value} {call : Library.Call} {host : Host}
    {answer : Except Failure Value} (hname : name.isEmpty = false) (hcall : Library.call? name [arg] = some call)
    (hanswer : Library.call call (.loaded d) host = (answer, .loaded d', host)) :
    (loadedCompiler d).invoke languages name arg host = (told answer, loadedCompiler d', host) := by
  unfold told loadedCompiler
  generalize librarySource = text
  have hinvoke := invokeMethod_loaded text hcall hanswer
  simp only [Compiler.invoke, loadedFrom, Handle.invoke, Handle.use, hname, Bool.false_eq_true, if_false, Site.clear,
    hinvoke]
  rcases answer with (report | e) | v
  · rfl
  · rfl
  · rfl

/-- What compiling a text comes to with these delimiters, unless scripts have to run for it. -/
def outcome? (d : Delimiters) (text : String) : Option (Except HostError String) :=
  match compileText d text with
  | .source u => match ProtoScript.Script.exportUnits u with
    | .ok v => some (Compiler.sourceOf v)
    | .error reason => some (told (.error (.refused (.conversion reason))))
  | .fault report => some (told (.error (.raised report)))
  | .undecided => none

theorem compile_loaded {d : Delimiters} {text : String} {answer : Except HostError String}
    (h : outcome? d text = some answer) (host : Host) :
    (loadedCompiler d).compile languages text host = (answer, loadedCompiler d, host) := by
  have hcall : Library.call? "compile" [.text text] = some (.compile text) := rfl
  have hinvoke {v : Except Failure Value} (hv : Library.call (.compile text) (.loaded d) host = (v, .loaded d, host)) :
      (loadedCompiler d).compile languages text host = ((told v).bind Compiler.sourceOf, loadedCompiler d, host) := by
    rw [Compiler.compile, invoke_loaded (by decide) hcall hv]
  unfold outcome? at h
  split at h
  · rename_i u hsource
    split at h
    · rename_i v hexport
      cases h
      refine hinvoke (v := .ok v) ?_
      simp only [Library.call, Library.compile, hsource, hexport]
    · rename_i reason hexport
      cases h
      refine hinvoke (v := .error (.refused (.conversion reason))) ?_
      simp only [Library.call, Library.compile, hsource, hexport]
  · rename_i report hfault
    cases h
    refine hinvoke (v := .error (.raised report)) ?_
    simp only [Library.call, Library.compile, hfault]
  · cases h

theorem configure_given (d : Delimiters) (s : Settings) : d.configure s.given = d.configure s := by
  have hchange (setting : Option String) (f : String → Delimiters → Delimiters) :
      Delimiters.change (setting.filter (!·.isEmpty)) f = Delimiters.change setting f := by
    unfold Delimiters.change
    rw [Option.filter_filter]
    simp only [Bool.and_self]
  simp only [Delimiters.configure, Delimiters.changes, Settings.given, hchange]

theorem configure_loaded {d d' : Delimiters} {s : Settings} (h : d.configure s = (d', none)) (host : Host) :
    (loadedCompiler d).configure languages s host = (.ok (), loadedCompiler d', host) := by
  have hcall : Library.call? "setTemplateSettings" [s.toValue] = some (.configure s.given) := by
    simp only [Library.call?, Settings.settings?_toValue, Option.map_some]
  have hanswer : Library.call (.configure s.given) (.loaded d) host = (.ok .undefined, .loaded d', host) := by
    simp only [Library.call, Library.configure, configure_given, h]
  rw [Compiler.configure, invoke_loaded (by decide) hcall hanswer]
  rfl

/-! ## Histories -/

/-- What is asked of a compiler. -/
inductive Order where
  | configure (s : Settings)
  | compile (text : String)

/-- A compiler after an order, whatever the answer. -/
def obey : HostCompiler × Host → Order → HostCompiler × Host
  | (c, host), .configure s => (c.configure languages s host).2
  | (c, host), .compile text => (c.compile languages text host).2

/-- Orders of which every change of delimiters succeeds and no template has to be run, from some delimiters
to others. -/
inductive Followed : Delimiters → List Order → Delimiters → Prop
  | nil (d : Delimiters) : Followed d [] d
  | configure {d d' e : Delimiters} {s : Settings} {rest : List Order} (h : d.configure s = (d', none)) :
    Followed d' rest e → Followed d (.configure s :: rest) e
  | compile {d e : Delimiters} {text : String} {rest : List Order} (h : (outcome? d text).isSome) :
    Followed d rest e → Followed d (.compile text :: rest) e

theorem obey_loaded {d e : Delimiters} {orders : List Order} (h : Followed d orders e) (host : Host) :
    orders.foldl obey (loadedCompiler d, host) = (loadedCompiler e, host) := by
  induction h with
  | nil d => rfl
  | configure h _ ih => rw [List.foldl_cons, obey, configure_loaded h, ih]
  | compile h _ ih =>
    obtain ⟨answer, hanswer⟩ := Option.isSome_iff_exists.mp h
    rw [List.foldl_cons, obey, compile_loaded hanswer, ih]

/-- The pattern that an order gives to a slot, unless there is none or it is empty. -/
def Order.given? (slot : Settings → Option String) : Order → Option String
  | .configure s => (slot s).filter (!·.isEmpty)
  | .compile _ => none

/-- The last pattern that orders give to a slot. -/
def lastGiven? (slot : Settings → Option String) (orders : List Order) : Option String :=
  (orders.filterMap (Order.given? slot)).getLast?

/-- The delimiters after orders: each slot has the last pattern that was given to it. -/
def inForce (d : Delimiters) (orders : List Order) : Delimiters where
  escape := (lastGiven? (·.escape) orders).getD d.escape
  interpolate := (lastGiven? (·.interpolate) orders).getD d.interpolate
  evaluate := (lastGiven? (·.evaluate) orders).getD d.evaluate

theorem configureAll_eq {d d' : Delimiters} {changes : List (String × (Delimiters → Delimiters))}
    (h : d.configureAll changes = (d', none)) : d' = changes.foldl (fun d change => change.2 d) d := by
  induction changes generalizing d with
  | nil =>
    cases h
    rfl
  | cons change rest ih =>
    obtain ⟨pattern, f⟩ := change
    unfold Delimiters.configureAll at h
    split at h
    · cases h
    · exact ih h

/-- Settings that were accepted are in force. -/
theorem configure_eq {d d' : Delimiters} {s : Settings} (h : d.configure s = (d', none)) :
    d' = inForce d [.configure s] := by
  have hslot (slot : Settings → Option String) :
      lastGiven? slot [.configure s] = (slot s).filter (!·.isEmpty) := by
    cases hgiven : (slot s).filter (!·.isEmpty) <;> simp [lastGiven?, Order.given?, hgiven]
  rw [configureAll_eq h, inForce, hslot, hslot, hslot, Delimiters.changes]
  unfold Delimiters.change
  cases s.interpolate.filter (!·.isEmpty) <;> cases s.evaluate.filter (!·.isEmpty) <;>
    cases s.escape.filter (!·.isEmpty) <;> rfl

theorem lastGiven?_cons (slot : Settings → Option String) (order : Order) (rest : List Order) (p : String) :
    (lastGiven? slot (order :: rest)).getD p = (lastGiven? slot rest).getD ((lastGiven? slot [order]).getD p) := by
  unfold lastGiven?
  cases hgiven : order.given? slot with
  | none => simp [hgiven]
  | some q => simp [hgiven, List.getLast?_cons]

theorem inForce_cons (d : Delimiters) (order : Order) (rest : List Order) :
    inForce d (order :: rest) = inForce (inForce d [order]) rest := by
  simp only [inForce, lastGiven?_cons _ order rest]

theorem Followed.eq_inForce {d e : Delimiters} {orders : List Order} (h : Followed d orders e) :
    e = inForce d orders := by
  induction h with
  | nil d => rfl
  | configure h _ ih => rw [ih, inForce_cons, ← configure_eq h]
  | @compile d e text rest _ _ ih =>
    have hnone : inForce d [.compile text] = d := rfl
    rw [ih, inForce_cons, hnone]

/-- Templates that need not be run can be compiled in any order. -/
theorem followed_compile {d : Delimiters} {texts : List String} (h : ∀ text ∈ texts, (outcome? d text).isSome) :
    Followed d (texts.map .compile) d := by
  induction texts with
  | nil => exact .nil d
  | cons text rest ih =>
    obtain ⟨htext, hrest⟩ := List.forall_mem_cons.mp h
    exact .compile htext (ih hrest)

/-- Compiling depends on the text and on the delimiters in force only. -/
theorem compile_independent {d : Delimiters} {orders : List Order} (h : Followed .standard orders d) {text : String}
    {answer : Except HostError String} (htext : outcome? (inForce .standard orders) text = some answer) (host : Host) :
    ∃ c, Compiler.loadEmbedded languages .forTemplates .uninitialized host = (.ok (), c, host)
      ∧ (orders.foldl obey (c, host)).1.compile languages text host = (answer, loadedCompiler d, host) := by
  refine ⟨_, loadEmbedded_eq host, ?_⟩
  rw [obey_loaded h]
  exact compile_loaded (h.eq_inForce ▸ htext) host

end ScriptHost.Template
