import ScriptHost.Languages
import ScriptHost.Proofs.Announcements
import ScriptHost.Proofs.Bonds

/-!
# Named items

A session registers an item with its site and announces its name to its engine in one operation.  So the
site holds every name that the engine waits to bind, whatever else is done to the session, and no text is
ever refused because of a name.

* `Interpreter.Resolves` — an interpreter that refuses nothing because of a name, as those of the two
  languages do: `ProtoScript.interpreter_resolves`, `TableScript.interpreter_resolves`.
* `Interpreted.Supplied` — the site holds the names that an engine waits to bind.
* `Interpreted.Renewed`, `Session.Renewed` — no text runs before a name is bound to a value.
* `named_items_law` — **how named items are bound**, by engines and in sessions.
-/

namespace ScriptHost

variable {α : Type}

/-! ## Engines over an interpreter -/

/-- A failure of an interpreter other than that a name is unknown. -/
def Failure.Known (f : Failure) : Prop := ∀ e, f = .refused e → e.Known

/-- An interpreter that refuses nothing because of a name, calls of functions apart. -/
structure Interpreter.Resolves {μ χ : Type} (I : Interpreter μ χ) : Prop where
  bind (name : String) (v : Value) (scripts : μ) (host : Host) (e : NativeError) :
    (I.bind name v scripts host).1 = .error e → e.Known
  evaluate (text : String) (scripts : μ) (host : Host) (f : Failure) :
    (I.evaluate text scripts host).1 = .error f → f.Known
  execute (text : String) (scripts : μ) (host : Host) (f : Failure) :
    (I.execute text scripts host).1 = .error f → f.Known
  global (name : String) (scripts : μ) (host : Host) (f : Failure) :
    (I.global name scripts host).1 = .error f → f.Known

namespace Interpreted

variable {μ χ : Type} {I : Interpreter μ χ}

/-- An engine that is open, and whose site holds all names that wait to be bound. -/
structure Supplied (s : State μ) (site : Option Site) : Prop where
  isOpen : IsOpen s
  holdsSite : s.holdsSite = true
  items : ∃ items, site.map Site.items = some items ∧ ∀ n ∈ s.pending, (items.lookup n).isSome

/-- The relation holds on while the engine stays open, the site keeps its items and no more names wait. -/
theorem Supplied.of_frame {s t : State μ} {site site' : Option Site} (h : Supplied s site) (hopen : IsOpen t)
    (hholds : t.holdsSite = s.holdsSite) (hpending : t.pending ⊆ s.pending)
    (hitems : site'.map Site.items = site.map Site.items) : Supplied t site' := by
  obtain ⟨items, hsite, hheld⟩ := h.items
  exact ⟨hopen, hholds.trans h.holdsSite, items, hitems.trans hsite, fun n hn => hheld n (hpending hn)⟩

theorem tell_items (holds : Bool) (c : Context) {f : Site → Site} (hf : ∀ site, (f site).items = site.items) :
    (tell holds c f).site.map Site.items = c.site.map Site.items := by
  cases holds with
  | false => rfl
  | true => simp [tell, Context.tell, Option.map_map, Function.comp_def, hf]

/-- A computation of the interpreter leaves the engine as it is, and the site its items. -/
theorem supplied_run {s : State μ} {c : Context} (h : Supplied s c.site) (holds : Bool) (source : Option String)
    (act : Running μ Failure α) :
    Supplied (run holds source act s c).2.1 (run holds source act s c).2.2.site := by
  unfold run
  generalize act s.scripts c.host = r
  obtain ⟨f | a, scripts, host⟩ := r
  · cases f with
    | refused e => exact ⟨h.isOpen, h.holdsSite, h.items⟩
    | raised report =>
      refine h.of_frame h.isOpen rfl (List.Subset.refl _) ?_
      exact tell_items holds { c with host } (f := (·.report { report with sourceText := source })) fun _ => rfl
  · exact ⟨h.isOpen, h.holdsSite, h.items⟩

theorem upholds_run {s : State μ} {c : Context} (h : Supplied s c.site) (holds : Bool) (source : Option String)
    {act : Running μ Failure α} (hact : ∀ scripts host f, (act scripts host).1 = .error f → f.Known) :
    Upholds Supplied (run holds source act s c) := by
  have hafter := supplied_run h holds source act
  have hknown := hact s.scripts c.host
  unfold run at hafter ⊢
  generalize act s.scripts c.host = r at hafter hknown ⊢
  obtain ⟨f | a, scripts, host⟩ := r
  · refine .error hafter ?_
    cases f with
    | refused e => exact hknown _ rfl e rfl
    | raised report => exact fun n hn => by cases hn
  · exact .ok hafter

theorem bindNames_supplied (hI : I.Resolves) {site : Site} {names : List String}
    (hnames : ∀ m ∈ names, (site.item? m).isSome) (scripts : μ) (host : Host) :
    (∀ e, (bindNames I site names scripts host).1 = .error e → e.Known)
      ∧ (bindNames I site names scripts host).2.1 ⊆ names := by
  induction names generalizing scripts host with
  | nil => exact ⟨nofun, List.Subset.refl _⟩
  | cons name rest ih =>
    obtain ⟨v, hv⟩ := Option.isSome_iff_exists.mp (hnames name List.mem_cons_self)
    have hknown := hI.bind name v scripts host
    simp only [bindNames, hv]
    generalize I.bind name v scripts host = r at hknown ⊢
    obtain ⟨e | u, scripts, host⟩ := r
    · refine ⟨fun e' he => ?_, List.Subset.refl _⟩
      cases he
      exact hknown _ rfl
    · obtain ⟨hrest, hsubset⟩ := ih (fun m hm => hnames m (List.mem_cons_of_mem _ hm)) scripts host
      exact ⟨hrest, List.Subset.trans hsubset (List.subset_cons_self _ _)⟩

theorem upholds_parseText (hI : I.Resolves) {s : State μ} {c : Context} (h : Supplied s c.site) (text : String)
    (flags : ParseFlags) : Upholds Supplied (parseText I text flags s c) := by
  obtain ⟨items, hitems, hheld⟩ := h.items
  obtain ⟨site, hsite, rfl⟩ := Option.map_eq_some_iff.mp hitems
  have hready : Ready (s, c) := ⟨h.isOpen, h.holdsSite, by simp [hsite]⟩
  have hbind := bindNames_supplied hI hheld s.scripts c.host
  rw [parseText_ready hready hsite]
  generalize bindNames I site s.pending s.scripts c.host = r at hbind ⊢
  obtain ⟨e | u, pending, scripts, host⟩ := r
  · exact .error (h.of_frame h.isOpen rfl hbind.2 rfl) (hbind.1 e rfl)
  · have hbound : Supplied { s with pending, scripts, source := some text }
        (tell s.holdsSite { c with host } Site.enter).site :=
      h.of_frame h.isOpen rfl hbind.2 (tell_items s.holdsSite { c with host } fun _ => rfl)
    simp only [runText]
    split
    · exact upholds_run hbound _ _ (hI.evaluate text)
    · have hrun := upholds_run hbound s.holdsSite (some text) (hI.execute text)
      generalize run s.holdsSite (some text) (I.execute text) _ _ = r at hrun ⊢
      cases hrun with
      | ok hafter => exact .ok hafter
      | error hafter he => exact .error hafter he

/-- After an item was registered, the site holds its name and all that it held before. -/
theorem Supplied.insert {s : State μ} {site : Option Site} (h : Supplied s site) (name : String) (v : Value) :
    Supplied { s with pending := if name ∈ s.pending then s.pending else s.pending ++ [name] }
      (site.map (·.insert name v)) := by
  obtain ⟨items, hitems, hheld⟩ := h.items
  refine ⟨h.isOpen, h.holdsSite, Value.insertEntry name v items, ?_, fun n hn => ?_⟩
  · obtain ⟨site, rfl, rfl⟩ := Option.map_eq_some_iff.mp hitems
    rfl
  · rw [Value.lookup_insertEntry]
    split
    · rfl
    · rename_i hne
      refine hheld n ?_
      dsimp only at hn
      split at hn
      · exact hn
      · exact (List.mem_append.mp hn).resolve_right fun h => hne (List.mem_singleton.mp h)

theorem addNamedItem_isOpen {s : State μ} (hopen : IsOpen s) (name : String) (c : Context) :
    (engine I).addNamedItem name s c
      = (.ok (), { s with pending := if name ∈ s.pending then s.pending else s.pending ++ [name] }, c) := by
  simp only [engine, whileOpen, if_neg hopen]
  by_cases hname : name ∈ s.pending
  · rw [if_pos hname, if_pos hname]
  · rw [if_neg hname, if_neg hname]

theorem upholds_setState {s : State μ} {c : Context} (h : Supplied s c.site) {target : EngineState}
    (htarget : target ≠ .closed) : Upholds Supplied (setState target s c) := by
  have hopen : s.phase ≠ .closed ∧ s.holdsScripts = true := by simpa [IsOpen] using h.isOpen
  unfold setState
  split
  · exact .ok h
  · rw [if_neg hopen.1]
    exact .ok (h.of_frame (by simp [IsOpen, htarget, hopen.2]) rfl (List.Subset.refl _) rfl)

/-- An engine over an interpreter binds the names that its site holds. -/
theorem supports_engine (hI : I.Resolves) : Supports Supplied (engine I) where
  clear {s site} h := by
    refine h.of_frame h.isOpen rfl (List.Subset.refl _) ?_
    cases site <;> rfl
  initNew {s c} h := by
    have hempty : Supplied { s with pending := [] } c.site :=
      h.of_frame h.isOpen rfl (List.nil_subset _) rfl
    simp only [engine, whileOpen, if_neg h.isOpen]
    exact upholds_setState hempty (by decide)
  connect h := upholds_setState h (by decide)
  announce {s c} name v h := by
    rw [addNamedItem_isOpen h.isOpen]
    exact .ok (h.insert name v)
  parseText text flags h := upholds_parseText hI h text flags
  globalDispatch {s c} h := by
    simp only [engine, whileOpen, if_neg h.isOpen]
    exact .ok h
  getProperty {s c} d name h := by
    simp only [engine, whileHeld]
    split
    · refine .error h ?_
      intro name heq
      cases heq
    · exact upholds_run h _ _ (hI.global name)
  invokeMethod {s c} d name args h := by
    simp only [engine, invoke, whileHeld]
    split
    · exact h
    · have hprepared := supplied_run h d.holdsSite d.source (I.prepare name args)
      generalize run d.holdsSite d.source (I.prepare name args) s c = r at hprepared ⊢
      obtain ⟨e | prepared, s, c⟩ := r
      · exact hprepared
      · refine supplied_run (hprepared.of_frame hprepared.isOpen rfl (List.Subset.refl _) ?_) _ _ _
        exact tell_items _ c fun _ => rfl
  release d c := rfl

/-! ### Registering again -/

variable (I) in
/-- No text runs before a name is bound to a value. -/
def Renewed (e : State μ × Context) (n : String) (v : Value) : Prop :=
  ∀ text flags, .ran text flags ∈ deedsOf I e (.parse text flags) →
    .bound n v ∈ deedsOf I e (.parse text flags)

theorem walk_of_ok (site : Site) {names : List String} {scripts : μ} {host : Host}
    (hok : (bindNames I site names scripts host).1 = .ok ()) {n : String} (hn : n ∈ names) {v : Value}
    (hv : site.item? n = some v) : .bound n v ∈ walk I site names scripts host := by
  induction names generalizing scripts host with
  | nil => cases hn
  | cons m rest ih =>
    simp only [bindNames, walk] at hok ⊢
    cases hm : site.item? m with
    | none => simp [hm] at hok
    | some w =>
      simp only [hm] at hok ⊢
      rcases hbind : I.bind m w scripts host with ⟨e | u, scripts', host'⟩
      · simp [hbind] at hok
      · simp only [hbind] at hok ⊢
        rcases List.mem_cons.mp hn with rfl | hrest
        · rw [Option.some.inj (hm.symm.trans hv)]
          exact List.mem_cons_self
        · exact List.mem_cons_of_mem _ (ih hok hrest)

theorem ran_notMem_walk (site : Site) (names : List String) (scripts : μ) (host : Host) (text : String)
    (flags : ParseFlags) : .ran text flags ∉ walk I site names scripts host := by
  induction names generalizing scripts host with
  | nil => exact List.not_mem_nil
  | cons m rest ih =>
    simp only [walk]
    cases site.item? m with
    | none => exact List.not_mem_nil
    | some v =>
      dsimp only
      rcases I.bind m v scripts host with ⟨e | u, scripts', host'⟩
      · simp
      · simp [ih]

theorem renewed_of_pending {e : State μ × Context} (h : Ready e) (site : Site) (hsite : e.2.site = some site)
    {n : String} (hn : n ∈ e.1.pending) {v : Value} (hv : site.item? n = some v) : Renewed I e n v := by
  intro text flags hran
  rw [deedsOf_parse h hsite] at hran ⊢
  rcases List.mem_append.mp hran with hwalk | hrun
  · exact absurd hwalk (ran_notMem_walk site _ _ _ text flags)
  · cases hanswer : (bindNames I site e.1.pending e.1.scripts e.2.host).1 with
    | error err => simp [hanswer] at hrun
    | ok u => exact List.mem_append_left _ (walk_of_ok site hanswer hn hv)

/-- A name that is registered again gets its new value before the next text runs. -/
theorem renewed_after {e : State μ × Context} (h : Ready e) (history : List Request) (n : String) (v : Value) :
    Renewed I (after I e (history ++ [.insert n v, .announce n])) n v := by
  have hhistory := (faithful_after (I := I) h history).ready
  have hinserted := (faithful_request (I := I) hhistory (.insert n v)).ready
  have hannounced := faithful_request (I := I) hinserted (.announce n)
  obtain ⟨site, hsite⟩ := Option.isSome_iff_exists.mp hhistory.site
  have hafter : after I e (history ++ [.insert n v, .announce n])
      = afterRequest I (afterRequest I (after I e history) (.insert n v)) (.announce n) := by
    rw [after, List.foldl_append]
    rfl
  rw [hafter]
  refine renewed_of_pending hannounced.ready (site.insert n v) ?_ ?_ ?_
  · have hopen : ¬((after I e history).1.phase = .closed || !(after I e history).1.holdsScripts) = true :=
      hhistory.isOpen
    simp only [afterRequest, engine, whileOpen, if_neg hopen, Context.tell, hsite, Option.map_some]
  · rw [hannounced.pending]
    simp only [deedsOf, List.foldl_cons, List.foldl_nil, Deed.pend]
    split
    · assumption
    · simp
  · exact site.item?_insert_self n v

end Interpreted

/-! ## The two languages -/

/-- All answers of a computation of a machine have a property. -/
def Answers {ρ ε σ α : Type} (P : α → Prop) (act : ReaderT ρ (EStateM ε σ) α) : Prop :=
  ∀ calls m a m', act calls m = .ok a m' → P a

theorem Answers.pure {ρ ε σ α : Type} {P : α → Prop} {a : α} (h : P a) :
    Answers P (Pure.pure a : ReaderT ρ (EStateM ε σ) α) := by
  rintro calls m b m' ⟨⟩
  exact h

theorem Answers.bind {ρ ε σ α β : Type} {P : β → Prop} {first : ReaderT ρ (EStateM ε σ) α}
    {next : α → ReaderT ρ (EStateM ε σ) β} (h : ∀ a, Answers P (next a)) : Answers P (first >>= next) := by
  intro calls m b m' hrun
  change (match first calls m with
    | .ok a m => next a calls m
    | .error e m => .error e m) = .ok b m' at hrun
  split at hrun
  · exact h _ _ _ _ _ hrun
  · cases hrun

/-- An answer that is no refusal because of a name. -/
def IsKnown (answer : Except Failure α) : Prop := ∀ f, answer = .error f → f.Known

theorem isKnown_ok (a : α) : IsKnown (.ok a : Except Failure α) := nofun

namespace ProtoScript

theorem answers_toHost (v : Val) : Answers IsKnown (Script.toHost v) := by
  refine .bind fun answer => ?_
  cases answer with
  | ok w => exact .pure (isKnown_ok w)
  | error reason =>
    refine .pure ?_
    rintro _ ⟨⟩ _ ⟨⟩ n hn
    cases hn

theorem known_endless : endless.Known := by
  rintro _ ⟨⟩ n hn
  cases hn

theorem isKnown_serve {act : Script (Answer α)} (h : Answers IsKnown act) (m : Machine) (host : Host) :
    IsKnown (Machine.serve act m host).1 := by
  intro f hf
  unfold Machine.serve at hf
  dsimp only at hf
  split at hf
  · rename_i answer m' hrun
    exact h _ _ _ _ hrun f hf
  · cases hf
    exact known_endless
  · split at hf
    · cases hf
      exact nofun
    · cases hf
      exact known_endless

theorem isKnown_serveText {act : Script (Answer α)} (h : Answers IsKnown act) (text : String) (m : Machine)
    (host : Host) : IsKnown (Machine.serveText text act m host).1 := by
  unfold Machine.serveText
  split
  · rename_i failure hsevered
    rintro _ ⟨⟩
    unfold severed at hsevered
    dsimp only at hsevered
    split at hsevered
    · cases hsevered
    · cases hsevered
      rintro _ ⟨⟩ n hn
      cases hn
  · exact isKnown_serve h m host

theorem known_bindGlobal (name : String) (v : Value) (m : Machine) (host : Host) (e : NativeError)
    (he : (bindGlobal name v m host).1 = .error e) : e.Known := by
  have hanswers : Answers IsKnown (do Script.bindGlobal name v; return .ok () : Script (Answer Unit)) :=
    .bind fun _ => .pure (isKnown_ok ())
  have hserve := isKnown_serve hanswers m host
  unfold bindGlobal at he
  generalize Machine.serve _ m host = r at hserve he
  rcases r with ⟨f | u, m', host'⟩
  · cases f with
    | refused e' =>
      cases he
      exact hserve _ rfl _ rfl
    | raised report =>
      cases he
      exact nofun
  · cases he

theorem interpreter_resolves : interpreter.Resolves where
  bind := known_bindGlobal
  evaluate text scripts host := isKnown_serveText (.bind fun v => answers_toHost v) text scripts host
  execute text scripts host := isKnown_serveText (.bind fun _ => .pure (isKnown_ok ())) text scripts host
  global _ scripts host := isKnown_serve (.bind fun v => answers_toHost v) scripts host

end ProtoScript

namespace TableScript

theorem answers_toHost (v : Val) : Answers IsKnown (Script.toHost v) := by
  refine .bind fun m => ?_
  cases m.exportVal v with
  | ok w => exact .pure (isKnown_ok w)
  | error reason =>
    refine .pure ?_
    rintro _ ⟨⟩ _ ⟨⟩ n hn
    cases hn

theorem answers_evaluate (text : String) : Answers IsKnown (Script.evaluate text) := by
  refine .bind fun program => ?_
  cases program with
  | ok f => exact .bind fun v => answers_toHost v
  | error fault =>
    refine .pure ?_
    rintro _ ⟨⟩ _ ⟨⟩

theorem answers_execute (text : String) : Answers IsKnown (Script.execute text) := by
  refine .bind fun program => ?_
  cases program with
  | ok f => exact .bind fun _ => .pure (isKnown_ok ())
  | error fault =>
    refine .pure ?_
    rintro _ ⟨⟩ _ ⟨⟩

/-- A call of the host is answered by the script, or fails as one of the two failures of calls. -/
theorem serve_cases {ε : Type} {failed : String → ε} {endless : ε} {act : Script (Except ε α)}
    {P : ε → Prop} (h : Answers (fun answer => ∀ f, answer = .error f → P f) act) (hfailed : ∀ text, P (failed text))
    (hendless : P endless) (m : Machine) (host : Host) {f : ε}
    (hf : (Machine.serve failed endless act m host).1 = .error f) : P f := by
  unfold Machine.serve at hf
  split at hf
  · rename_i answer m' hrun
    exact h _ _ _ _ hrun f hf
  · cases hf
    exact hendless
  · split at hf
    · cases hf
      exact hfailed _
    · cases hf
      exact hendless

theorem isKnown_serveReporting {act : Script (Answer α)} (h : Answers IsKnown act) (m : Machine) (host : Host) :
    IsKnown (Machine.serveReporting act m host).1 := by
  intro f hf
  refine serve_cases h (fun text => ?_) ?_ m host hf
  · exact nofun
  · rintro _ ⟨⟩ n hn
    cases hn

theorem known_bindGlobal (name : String) (v : Value) (m : Machine) (host : Host) (e : NativeError)
    (he : (bindGlobal name v m host).1 = .error e) : e.Known := by
  unfold bindGlobal at he
  refine serve_cases (P := NativeError.Known) (.bind fun _ => .bind fun _ => .pure ?_) (fun text => ?_) ?_ m host he
  · exact fun f hf => by cases hf
  · exact nofun
  · exact nofun

theorem interpreter_resolves : interpreter.Resolves where
  bind := known_bindGlobal
  evaluate text scripts host := isKnown_serveReporting (answers_evaluate text) scripts host
  execute text scripts host := isKnown_serveReporting (answers_execute text) scripts host
  global _ scripts host := isKnown_serveReporting (.bind fun v => answers_toHost v) scripts host

end TableScript

/-! ## Sessions of the languages -/

/-- The relation to their sites that the engines of the registry keep to. -/
def AnyState.Supplied : Bond AnyState :=
  Sum.elim (Sum.elim (Sum.elim Interpreted.Supplied fun _ _ => False) Interpreted.Supplied) fun _ _ => False

theorem supports_languages (rehearsed : Capabilities) : Supports AnyState.Supplied (languages rehearsed) :=
  .sum (.sum (.sum (Interpreted.supports_engine ProtoScript.interpreter_resolves) (supports_none fun _ _ => rfl))
    (Interpreted.supports_engine TableScript.interpreter_resolves)) (supports_none fun _ _ => rfl)

theorem Interpreted.supplied_new {μ χ : Type} (I : Interpreter μ χ) (host : Host) :
    Supplied ((engine I).setSite (.new I) ⟨some {}, host⟩).1 ((engine I).setSite (.new I) ⟨some {}, host⟩).2.site :=
  ⟨by simp [engine, State.new, IsOpen], rfl, [], rfl, nofun⟩

theorem standard_begins (rehearsed : Capabilities) :
    Registry.standard.Begins AnyState.Supplied (languages rehearsed) := by
  have hproto : Factory.Begins AnyState.Supplied (languages rehearsed) protoScriptFactory :=
    fun _ => ⟨_, rfl, Interpreted.supplied_new ProtoScript.interpreter⟩
  have htable : Factory.Begins AnyState.Supplied (languages rehearsed) tableScriptFactory :=
    fun _ => ⟨_, rfl, Interpreted.supplied_new TableScript.interpreter⟩
  exact (((Registry.Begins.empty _ _).register hproto _).register hproto _).register htable _

/-- The world of a program that uses the registry that hosts start with, after a history of operations. -/
def World.standard (rehearsed : Capabilities) (host : Host) (history : List Operation) :
    World AnyState AnyDispatch :=
  (fresh host).run (languages rehearsed) .standard history

theorem World.supported_standard (rehearsed : Capabilities) (host : Host) (history : List Operation) :
    (standard rehearsed host history).Supported AnyState.Supplied :=
  supported_run (supports_languages rehearsed) (standard_begins rehearsed) (fun _ h => by cases h) history

/-- An engine and its context as a session hands them a text, after it was connected. -/
def Interpreted.connected {μ : Type} (s : State μ) (site : Option Site) (host : Host) : State μ × Context :=
  let r := setState .connected s ⟨site, host⟩
  (r.2.1, r.2.2.tell Site.clear)

/-- In a session, no text runs before a name is bound to a value. -/
def Session.Renewed (s : Session AnyState) (n : String) (v : Value) : Prop :=
  match s.engine with
  | some (.inl (.inl (.inl e))) =>
    ∀ host, Interpreted.Renewed ProtoScript.interpreter (Interpreted.connected e s.site host) n v
  | some (.inl (.inr e)) =>
    ∀ host, Interpreted.Renewed TableScript.interpreter (Interpreted.connected e s.site host) n v
  | _ => False

theorem Interpreted.renewed_connected {μ χ : Type} (I : Interpreter μ χ) {s : State μ} {site : Site}
    (h : Supplied s (some site)) {n : String} (hn : n ∈ s.pending) {v : Value} (hv : site.item? n = some v)
    (host : Host) : Renewed I (connected s (some site) host) n v := by
  have hopen : s.phase ≠ .closed ∧ s.holdsScripts = true := by simpa [IsOpen] using h.isOpen
  by_cases hphase : s.phase = .connected
  · simp only [connected, setState, if_pos hphase]
    exact renewed_of_pending ⟨h.isOpen, h.holdsSite, rfl⟩ site.clear rfl hn hv
  · simp only [connected, setState, if_neg hphase, if_neg hopen.1]
    exact renewed_of_pending ⟨by simp [IsOpen, hopen.2], h.holdsSite, rfl⟩ site.clear rfl hn hv

theorem Interpreted.renewed_announced {μ χ : Type} (I : Interpreter μ χ) {s : State μ} {site : Site}
    (h : Supplied s (some site)) (name : String) (v : Value) (host : Host) :
    ∃ s', (engine I).addNamedItem name s ⟨some (site.insert name v), host⟩
        = (.ok (), s', ⟨some (site.insert name v), host⟩)
      ∧ ∀ host, Renewed I (connected s' (some (site.insert name v)) host) name v := by
  refine ⟨_, addNamedItem_isOpen h.isOpen name _, renewed_connected I (h.insert name v) ?_ ?_⟩
  · dsimp only
    split
    · assumption
    · simp
  · exact site.item?_insert_self name v

theorem Session.renewed_setNamedItem {rehearsed : Capabilities} {s s' : Session AnyState}
    (h : s.Supported AnyState.Supplied) {name : String} {v : Value} {host host' : Host}
    (hok : s.setNamedItem (languages rehearsed) name v host = (.ok (), s', host')) : s'.Renewed name v := by
  unfold setNamedItem at hok
  split at hok
  · cases hok
  split at hok
  · rename_i engine site hengine hsite
    have hsupplied := h engine hengine
    rw [hsite] at hsupplied
    -- the site of an engine of neither language is never supplied
    rcases engine with ((e | e) | e) | e
    · obtain ⟨e', hannounced, hrenewed⟩ :=
        Interpreted.renewed_announced ProtoScript.interpreter hsupplied name v host
      simp only [languages, Engine.sum, Engine.onEither, Engine.onLeft, hannounced] at hok
      cases hok
      exact hrenewed
    · exact hsupplied.elim
    · obtain ⟨e', hannounced, hrenewed⟩ :=
        Interpreted.renewed_announced TableScript.interpreter hsupplied name v host
      simp only [languages, Engine.sum, Engine.onEither, Engine.onLeft, Engine.onRight, hannounced] at hok
      cases hok
      exact hrenewed
    · exact hsupplied.elim
  · cases hok

theorem World.renewed_setNamedItem {rehearsed : Capabilities} {w : World AnyState AnyDispatch}
    (h : w.Supported AnyState.Supplied) {i : Nat} {n : String} {v : Value}
    (hok : (w.perform (languages rehearsed) .standard (.setNamedItem i n v)).1 = .ok none) {s : Session AnyState}
    (hs : (w.perform (languages rehearsed) .standard (.setNamedItem i n v)).2.sessions[i]? = some s) :
    s.Renewed n v := by
  cases hsession : w.sessions[i]? with
  | none =>
    simp only [perform, onSession, hsession] at hs
    cases hs
  | some s₀ =>
    have hsupported := h s₀ (List.mem_of_getElem? hsession)
    have hlength := (List.getElem?_eq_some_iff.mp hsession).1
    simp only [perform, onSession, hsession] at hok hs
    rcases hcall : s₀.setNamedItem (languages rehearsed) n v w.host with ⟨e | u, s', host⟩
    · simp only [hcall] at hok
      cases hok
    · simp only [hcall, withSession, List.getElem?_set_self hlength] at hs
      cases hs
      exact Session.renewed_setNamedItem hsupported hcall

/-! ## The law -/

/-- **How named items are bound.**

An engine, over whatever interpreter, that is told names and given texts, from its making on: which names
wait and in which order, what is bound when, and what a text finds, is told by the deeds of the engine.  A
name that is registered again gets its new value before the next text runs.

A session of the registry that hosts start with, after whatever was done with it and with others: no text is
refused because a name is unknown, and again no text runs before a name that was just registered has its
value. -/
theorem named_items_law :
    (∀ {μ χ : Type} (I : Interpreter μ χ) (site : Site) (host : Host) (history : List Request),
      let e := Interpreted.installed I site host
      Interpreted.KeepsNames I host (Interpreted.deeds I e history) (Interpreted.after I e history)
        ∧ ∀ n v, Interpreted.Renewed I (Interpreted.after I e (history ++ [.insert n v, .announce n])) n v)
    ∧ ∀ rehearsed host history,
      let w := World.standard rehearsed host history
      let perform := w.perform (languages rehearsed) .standard
      (∀ i text n, (perform (.eval i text)).1 ≠ .error (.nativeCallFailure (.unknownName n)))
        ∧ (∀ i text n, (perform (.parseModule i text)).1 ≠ .error (.nativeCallFailure (.unknownName n)))
        ∧ (∀ language text items variant n, (perform (.evalOnce language text items variant)).1
            ≠ .error (.nativeCallFailure (.unknownName n)))
        ∧ ∀ i n v, (perform (.setNamedItem i n v)).1 = .ok none →
            ∀ s ∈ (perform (.setNamedItem i n v)).2.sessions[i]?, s.Renewed n v := by
  refine ⟨fun I site host history => ⟨Interpreted.keepsNames I site host history, fun n v => ?_⟩,
    fun rehearsed host history => ?_⟩
  · exact Interpreted.renewed_after (Interpreted.ready_installed site host) history n v
  have hsupports := supports_languages rehearsed
  have hsupplied := World.supported_standard rehearsed host history
  refine ⟨fun i text n h => ?_, fun i text n h => ?_, fun language text items variant n h => ?_,
    fun i n v hok s hs => ?_⟩
  · have hserved := World.served_onSession hsupplied i
      (fun s host hs => Session.served_eval hsupports hs text host) some
    exact hserved.known _ h n rfl
  · exact (World.served_parseModule hsupports hsupplied i text).known _ h n rfl
  · have hknown := evalOnce_known hsupports (standard_begins rehearsed) language text items variant
      (World.standard rehearsed host history).host
    simp only [World.perform] at h
    generalize evalOnce _ _ language text items variant _ = r at h hknown
    obtain ⟨e | value, host'⟩ := r
    · cases h
      exact hknown _ rfl n rfl
    · cases h
  · exact World.renewed_setNamedItem hsupplied hok hs

theorem start_lua (rehearsed : Capabilities) (variant : Variant) (host : Host) :
    Session.start (languages rehearsed) .standard "lua" variant host
      = (.ok ⟨"lua", some (.inl (.inr { Interpreted.State.new TableScript.interpreter with
          holdsSite := true, phase := .initialized })), some {}, variant⟩, host) := by
  have hlookup : Registry.standard.lookup "lua" = some tableScriptFactory := by
    rw [Registry.lookup, Registry.standard, Registry.register, Registry.lookup_insertEntry, if_pos rfl]
  unfold Session.start
  rw [if_neg (by decide), hlookup]
  rfl

/-- An item that is registered in the first session of a program. -/
theorem named_items_law_first_session :
    let w := World.standard .required {} [.start "lua" .narrow]
    let result := w.perform (languages .required) .standard (.setNamedItem 0 "greeting" (.text "hello"))
    result.1 = .ok none ∧ ∃ s, result.2.sessions[0]? = some s ∧ s.Renewed "greeting" (.text "hello") := by
  intro w result
  have hanswer : result.1 = .ok none ∧ ∃ s, result.2.sessions[0]? = some s := by
    simp only [w, result, World.standard, World.run, List.foldl, World.perform, World.start, start_lua]
    exact ⟨rfl, _, rfl⟩
  obtain ⟨hok, s, hs⟩ := hanswer
  exact ⟨hok, s, hs, (named_items_law.2 .required {} [.start "lua" .narrow]).2.2.2 0 _ _ hok s hs⟩

end ScriptHost
