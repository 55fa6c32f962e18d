import ScriptHost.Proofs.Depiction
import ScriptHost.Proofs.Mailbox
import ScriptHost.Proofs.NamedItems

/-!
# What scripts throw and do not catch

Texts, functions and getters of globals run for their own sake, and what they throw is reported to the site.  A result
that is read for the host runs getters too, but what these throw only makes it a value that cannot be converted.

* `Script.Harmless` — a computation that throws nothing, as `harmless_exportVal` and `harmless_report` are.
* `Machine.raised_iff` — what is reported is just what was thrown before a result was read.
* `Interpreted.Reported` — a call that failed with an exception, and left its report in the mailbox.
* `Interpreted.surfaced_eval`, `Interpreted.surfaced_parseModule`, `Interpreted.surfaced_invoke`,
  `Interpreted.surfaced_get` — **what is reported surfaces as a fault of its class and its description**.
* `Machine.surfaced_eval_thrown` and its companions — so does what is thrown and not caught.
-/

namespace ScriptHost

/-! ## Computations that throw nothing -/

namespace ProtoScript

namespace Script

variable {α β : Type}

/-- A computation that throws nothing.  It may still take more steps than are admitted. -/
def Harmless (act : Script α) : Prop := ∀ calls m v m', act calls m ≠ .error (.thrown v) m'

theorem harmless_pure (a : α) : Harmless (pure a : Script α) := by
  intro calls m v m' hrun
  cases hrun

theorem harmless_get : Harmless (MonadState.get : Script Machine) := by
  intro calls m v m' hrun
  cases hrun

theorem bind_error {act : Script α} {next : α → Script β} {calls : Calls} {m m' : Machine} {e : Abort}
    (h : act calls m = .error e m') : (act >>= next) calls m = .error e m' := by
  change EStateM.bind (act calls) (fun a => next a calls) m = _
  unfold EStateM.bind
  rw [h]

theorem harmless_bind {act : Script α} {next : α → Script β} (h : Harmless act) (hnext : ∀ a, Harmless (next a)) :
    Harmless (act >>= next) := by
  intro calls m v m' hrun
  cases hact : act calls m with
  | ok a m₁ =>
    rw [bind_ok hact] at hrun
    exact hnext a calls m₁ v m' hrun
  | error e m₁ =>
    rw [bind_error hact] at hrun
    cases hrun
    exact h calls m v m' hact

/-- What is caught is not thrown, unless it is thrown again. -/
theorem harmless_catching {act : Script α} {handle : Val → Script α} (h : ∀ v, Harmless (handle v)) :
    Harmless (catching act handle) := by
  intro calls m v m' hrun
  cases hact : act calls m with
  | ok a m₁ =>
    have hok : catching act handle calls m = .ok a m₁ := by
      change EStateM.tryCatch (act calls) _ m = _
      unfold EStateM.tryCatch
      rw [hact]
    rw [hok] at hrun
    cases hrun
  | error e m₁ =>
    cases e with
    | thrown w =>
      have hhandled : catching act handle calls m = handle w calls m₁ := by
        change EStateM.tryCatch (act calls) _ m = _
        unfold EStateM.tryCatch
        rw [hact]
        rfl
      rw [hhandled] at hrun
      exact h w calls m₁ v m' hrun
    | exhausted =>
      have hexhausted : catching act handle calls m = .error .exhausted m₁ := by
        change EStateM.tryCatch (act calls) _ m = _
        unfold EStateM.tryCatch
        rw [hact]
        rfl
      rw [hexhausted] at hrun
      cases hrun

theorem harmless_readForHost (v : Val) (k : Key) : Harmless (readForHost v k) :=
  harmless_catching fun _ => harmless_pure _

theorem harmless_exportKeys {convert : Val → Script (Except String Value)} (h : ∀ v, Harmless (convert v)) (v : Val)
    (keys : List Key) (done : List Value) : Harmless (exportKeys convert v keys done) := by
  induction keys generalizing done with
  | nil => exact harmless_pure _
  | cons k rest ih =>
    refine harmless_bind (harmless_readForHost v k) fun answer => ?_
    cases answer with
    | error e => exact harmless_pure _
    | ok w =>
      refine harmless_bind (h w) fun answer => ?_
      cases answer with
      | error e => exact harmless_pure _
      | ok x => exact ih (x :: done)

theorem harmless_exportAt (levels : Nat) (v : Val) : Harmless (exportAt levels v) := by
  induction levels generalizing v with
  | zero => exact harmless_pure _
  | succ levels ih =>
    cases v with
    | obj id =>
      refine harmless_bind harmless_get fun m => ?_
      split
      · exact harmless_pure _
      split
      · exact harmless_bind (harmless_exportKeys ih _ _ _) fun _ => harmless_pure _
      · refine harmless_bind (harmless_bind harmless_get fun _ => harmless_pure _) fun names => ?_
        exact harmless_bind (harmless_exportKeys ih _ _ _) fun _ => harmless_pure _
    | _ => exact harmless_pure _

/-- **A result is read without throwing**, whatever its getters do. -/
theorem harmless_exportVal (v : Val) : Harmless (exportVal v) := harmless_exportAt _ v

theorem harmless_toHost (v : Val) : Harmless (toHost v) := by
  refine harmless_bind (harmless_exportVal v) fun answer => ?_
  cases answer with
  | ok w => exact harmless_pure _
  | error reason => exact harmless_pure _

theorem harmless_peek (v : Val) (name : String) : Harmless (peek v name) :=
  harmless_catching fun _ => harmless_pure _

theorem harmless_peekText? (v : Val) (name : String) : Harmless (peekText? v name) := by
  refine harmless_bind (harmless_peek v name) fun w => ?_
  split
  · split <;> exact harmless_pure _
  · exact harmless_pure _

theorem harmless_peekWord? (v : Val) (name : String) : Harmless (peekWord? v name) := by
  refine harmless_bind (harmless_peek v name) fun w => ?_
  split
  · split <;> exact harmless_pure _
  · exact harmless_pure _

/-- What was thrown is described without throwing again. -/
theorem harmless_report (thrown : Val) : Harmless (report thrown) := by
  unfold report
  split
  · exact harmless_bind (harmless_exportVal thrown) fun answer => by cases answer <;> exact harmless_pure _
  · exact harmless_bind (harmless_peekText? thrown "name") fun _ =>
      harmless_bind (harmless_peekText? thrown "message") fun _ =>
      harmless_bind (harmless_peekText? thrown "stack") fun _ =>
      harmless_bind (harmless_peekWord? thrown "lineNumber") fun _ =>
      harmless_bind (harmless_peekWord? thrown "columnNumber") fun _ => harmless_pure _

end Script

/-! ## What is reported -/

namespace Machine

variable {α β : Type} {m m₁ m₂ : Machine} {host : Host} {v : Val} {r : ErrorReport}

/-- A computation that the host starts throws a value. -/
def Throws (m : Machine) (host : Host) (act : Script α) (v : Val) (m₁ : Machine) : Prop :=
  ({ m with host } : Machine).perform act = .error (.thrown v) m₁

/-- How a thrown value is described. -/
def Describes (m₁ : Machine) (v : Val) (r : ErrorReport) : Prop := ∃ m₂, m₁.idle.perform (Script.report v) = .ok r m₂

/-- What comes after a computation and throws nothing does not change what is thrown. -/
theorem throws_bind_iff {act : Script α} {next : α → Script β} (hnext : ∀ a, Script.Harmless (next a)) :
    m.Throws host (act >>= next) v m₁ ↔ m.Throws host act v m₁ := by
  unfold Throws perform
  constructor
  · -- What was thrown was thrown by `act`: had it answered, `next` would have to throw.
    intro hrun
    cases hact : act (callsAt library nestingLimit) { m with host } with
    | ok a m' =>
      rw [bind_ok hact] at hrun
      exact absurd hrun (hnext a _ _ _ _)
    | error e m' =>
      rw [Script.bind_error hact] at hrun
      cases hrun
      rfl
  · exact Script.bind_error

/-- Answers that report nothing. -/
def IsSilent (answer : Answer α) : Prop := ∀ r, answer ≠ .error (.raised r)

/-- What is reported is just what was thrown. -/
theorem serve_raised_iff {act : Script (Answer α)} (hsilent : Answers IsSilent act) :
    (serve act m host).1 = .error (.raised r) ↔ ∃ v m₁, m.Throws host act v m₁ ∧ m₁.Describes v r := by
  unfold Throws Describes serve
  dsimp only
  cases hrun : ({ m with host } : Machine).perform act with
  | ok answer m' =>
    refine iff_of_false (hsilent _ _ _ _ hrun r) ?_
    rintro ⟨v, m₁, hthrows, -⟩
    cases hthrows
  | error e m' =>
    cases e with
    | exhausted =>
      refine iff_of_false (fun heq => by cases heq) ?_
      rintro ⟨v, m₁, hthrows, -⟩
      cases hthrows
    | thrown v =>
      dsimp only
      cases hreport : m'.idle.perform (Script.report v) with
      | ok report m₂ =>
        constructor
        · rintro ⟨⟩
          exact ⟨v, m', rfl, m₂, hreport⟩
        · rintro ⟨v', m₁, ⟨⟩, m₃, hdescribes⟩
          rw [hreport] at hdescribes
          cases hdescribes
          rfl
      | error e m₂ =>
        refine iff_of_false (fun heq => by cases heq) ?_
        rintro ⟨v', m₁, ⟨⟩, m₃, hdescribes⟩
        rw [hreport] at hdescribes
        cases hdescribes

/-- **Nothing is reported of how a result is read**: only what was thrown before. -/
theorem raised_iff {act : Script α} {next : α → Script (Answer β)} (hnext : ∀ a, Script.Harmless (next a))
    (hsilent : ∀ a, Answers IsSilent (next a)) :
    (serve (act >>= next) m host).1 = .error (.raised r) ↔ ∃ v m₁, m.Throws host act v m₁ ∧ m₁.Describes v r := by
  rw [serve_raised_iff (.bind hsilent)]
  simp only [throws_bind_iff hnext]

theorem answers_silent_toHost (v : Val) : Answers IsSilent (Script.toHost v) := by
  refine .bind fun answer => ?_
  cases answer with
  | ok w => exact .pure (fun _ heq => by cases heq)
  | error reason => exact .pure (fun _ heq => by cases heq)

theorem serveText_whole {act : Script (Answer α)} {text : String} (h : severed text = none) :
    serveText text act m host = serve act m host := by
  unfold serveText
  rw [h]

/-! ### The computations of the language -/

theorem evaluate_raised_iff {text : String} (h : severed text = none) :
    (interpreter.evaluate text m host).1 = .error (.raised r) ↔
      ∃ v m₁, m.Throws host (Script.runProgram text) v m₁ ∧ m₁.Describes v r := by
  change (serveText text _ m host).1 = _ ↔ _
  rw [serveText_whole h]
  exact raised_iff Script.harmless_toHost answers_silent_toHost

theorem execute_raised_iff {text : String} (h : severed text = none) :
    (interpreter.execute text m host).1 = .error (.raised r) ↔
      ∃ v m₁, m.Throws host (Script.runProgram text) v m₁ ∧ m₁.Describes v r := by
  change (serveText text _ m host).1 = _ ↔ _
  rw [serveText_whole h]
  exact raised_iff (fun _ => Script.harmless_pure _) fun _ => .pure fun _ heq => by cases heq

theorem global_raised_iff {name : String} :
    (interpreter.global name m host).1 = .error (.raised r) ↔
      ∃ v m₁, m.Throws host (Script.getName Intrinsic.global.val name) v m₁ ∧ m₁.Describes v r :=
  raised_iff Script.harmless_toHost answers_silent_toHost

theorem call_raised_iff {f : Val} {args : Array Val} :
    (interpreter.call (f, args) m host).1 = .error (.raised r) ↔
      ∃ v m₁, m.Throws host (Script.call f .undefined args) v m₁ ∧ m₁.Describes v r :=
  raised_iff Script.harmless_toHost answers_silent_toHost

theorem prepare_raised_iff {name : String} {args : List Value} :
    (interpreter.prepare name args m host).1 = .error (.raised r) ↔
      ∃ v m₁, m.Throws host (Script.prepareCall name args) v m₁ ∧ m₁.Describes v r := by
  refine serve_raised_iff (.bind fun f => .bind fun m => ?_)
  split
  · exact .pure fun _ heq => by cases heq
  · exact .bind fun _ => .pure fun _ heq => by cases heq

end Machine

end ProtoScript

/-! ## What surfaces -/

/-- An answer with a fault of the class and the description of a report. -/
def Surfaced {α : Type} (r : ErrorReport) (answer : Except HostError α) : Prop :=
  ∃ f, answer = .error (.scriptFault f) ∧ f.sourceName = r.sourceName ∧ f.description = r.description

/-- A mailbox with such a fault. -/
def Site.Holds (r : ErrorReport) (site : Option Site) : Prop :=
  ∃ f, site.bind Site.fault = some f ∧ f.sourceName = r.sourceName ∧ f.description = r.description

variable {μ χ α : Type} {I : Interpreter μ χ} {r : ErrorReport}

theorem Site.Holds.surfaced {c : Context} (h : Site.Holds r c.site) (e : NativeError) :
    Surfaced r (.error (c.surface e).1 : Except HostError α) := by
  obtain ⟨f, hfault, hname, hdescription⟩ := h
  refine ⟨f, ?_, hname, hdescription⟩
  simp only [Context.surface, hfault]

/-- Another source line is neither another class nor another description. -/
theorem Surfaced.against {e : HostError} (h : Surfaced r (.error e : Except HostError α)) (text : String) :
    Surfaced r (.error (e.against text) : Except HostError α) := by
  obtain ⟨f, ⟨⟩, hname, hdescription⟩ := h
  exact ⟨f.against text, rfl, hname, hdescription⟩

namespace Interpreted

/-- A call that failed with an exception, and left its report in the mailbox. -/
def Reported {σ : Type} (r : ErrorReport) (result : Except NativeError α × σ × Context) : Prop :=
  ∃ s c, result = (.error .exception, s, c) ∧ Site.Holds r c.site

theorem reported_run {act : Running μ Failure α} {s : State μ} {c : Context} {source : Option String}
    (hact : (act s.scripts c.host).1 = .error (.raised r)) (hsite : c.site.isSome = true) :
    Reported r (run true source act s c) := by
  obtain ⟨site, hsite⟩ := Option.isSome_iff_exists.mp hsite
  unfold run
  generalize act s.scripts c.host = result at hact
  obtain ⟨answer, scripts, host⟩ := result
  obtain rfl : answer = .error (.raised r) := hact
  refine ⟨_, _, rfl, { r with sourceText := source }.fault, ?_, rfl, rfl⟩
  simp [tell, Context.tell, hsite, Site.report]

/-- What is raised when a text is run. -/
def TextRaises (I : Interpreter μ χ) (text : String) (flags : ParseFlags) (scripts : μ) (host : Host)
    (r : ErrorReport) : Prop :=
  if flags.expression then (I.evaluate text scripts host).1 = .error (.raised r)
  else (I.execute text scripts host).1 = .error (.raised r)

theorem reported_runText {text : String} {flags : ParseFlags} {s : State μ} {c : Context}
    (hholds : s.holdsSite = true) (hsite : c.site.isSome = true) (h : TextRaises I text flags s.scripts c.host r) :
    Reported r (runText I text flags s c) := by
  have hentered : (c.tell Site.enter).site.isSome = true := by rwa [Context.tell, Option.isSome_map]
  unfold TextRaises at h
  simp only [runText, hholds]
  split at h
  · next hexpression =>
    rw [if_pos hexpression]
    exact reported_run h hentered
  · next hexpression =>
    rw [if_neg hexpression]
    obtain ⟨s', c', hrun, hfault⟩ : Reported r (run true (some text) (I.execute text)
        { s with holdsSite := true, source := some text } (tell true c Site.enter)) := reported_run h hentered
    exact ⟨s', c', by rw [hrun], hfault⟩

/-- An open engine with a site, and what the interpreter and the host are when all names are bound. -/
structure Bound (I : Interpreter μ χ) (s : State μ) (c : Context) (scripts : μ) (host : Host) : Prop where
  ready : Ready (s, c)
  bound : ∃ site pending, c.site = some site ∧
    bindNames I site s.pending s.scripts c.host = (.ok (), pending, scripts, host)

/-- The engine that a bound one is when a text runs. -/
theorem Bound.parseText_eq {s : State μ} {c : Context} {scripts : μ} {host : Host} (h : Bound I s c scripts host)
    (text : String) (flags : ParseFlags) : ∃ pending, parseText I text flags s c
      = runText I text flags { s with pending, scripts } { c with host } := by
  obtain ⟨site, pending, hsite, hbind⟩ := h.bound
  have hparse := parseText_ready h.ready hsite (I := I) text flags
  rw [hbind] at hparse
  exact ⟨pending, hparse⟩

theorem reported_parseText {text : String} {flags : ParseFlags} {s : State μ} {c : Context} {scripts : μ} {host : Host}
    (hbound : Bound I s c scripts host) (h : TextRaises I text flags scripts host r) :
    Reported r (parseText I text flags s c) := by
  obtain ⟨pending, hparse⟩ := hbound.parseText_eq text flags
  rw [hparse]
  exact reported_runText hbound.ready.holdsSite hbound.ready.site h

/-- The engine after a text ran only for its effects. -/
theorem Bound.executed {text : String} {flags : ParseFlags} (hflags : flags.expression = false) {s : State μ}
    {c : Context} {scripts scripts' : μ} {host host' : Host} (h : Bound I s c scripts host)
    (hexecute : I.execute text scripts host = (.ok (), scripts', host')) :
    ∃ s' c', Interpreted.parseText I text flags s c = (.ok .undefined, s', c') ∧ Ready (s', c') ∧
      s'.scripts = scripts' ∧ c'.host = host' := by
  obtain ⟨pending, hparse⟩ := h.parseText_eq text flags
  have hrun : runText I text flags { s with pending, scripts } { c with host }
      = (.ok .undefined, { s with pending, scripts := scripts', source := some text },
        { tell s.holdsSite { c with host } Site.enter with host := host' }) := by
    have hhost : (tell s.holdsSite { c with host } Site.enter).host = host := by cases s.holdsSite <;> rfl
    simp only [runText, hflags, Bool.false_eq_true, if_false, run, hhost, hexecute]
  refine ⟨_, _, hparse.trans hrun, ⟨h.ready.isOpen, h.ready.holdsSite, ?_⟩, rfl, rfl⟩
  have hsite : c.site.isSome = true := h.ready.site
  cases s.holdsSite <;> simpa [tell, Context.tell] using hsite

/-- A dispatch that may be used and tells the site. -/
structure InUse (d : Dispatch) : Prop where
  released : d.released = false
  holdsSite : d.holdsSite = true

theorem reported_getProperty {d : Dispatch} (hd : InUse d) {name : String} {s : State μ} {c : Context}
    (hsite : c.site.isSome = true) (h : (I.global name s.scripts c.host).1 = .error (.raised r)) :
    Reported r ((engine I).getProperty d name s c) := by
  simp only [engine, whileHeld, hd.released, hd.holdsSite, Bool.false_eq_true, if_false]
  exact reported_run h hsite

/-- What is raised when a function is found and called. -/
inductive CallRaises (I : Interpreter μ χ) (name : String) (args : List Value) (scripts : μ) (host : Host)
    (r : ErrorReport) : Prop
  | prepared (h : (I.prepare name args scripts host).1 = .error (.raised r)) : CallRaises I name args scripts host r
  | called {call : χ} {scripts' : μ} {host' : Host}
    (hprepared : I.prepare name args scripts host = (.ok call, scripts', host'))
    (h : (I.call call scripts' host').1 = .error (.raised r)) : CallRaises I name args scripts host r

theorem reported_invokeMethod {d : Dispatch} (hd : InUse d) {name : String} {args : List Value} {s : State μ}
    {c : Context} (hsite : c.site.isSome = true) (h : CallRaises I name args s.scripts c.host r) :
    Reported r ((engine I).invokeMethod d name args s c) := by
  simp only [engine, invoke, whileHeld, hd.released, hd.holdsSite, Bool.false_eq_true, if_false]
  cases h with
  | prepared h =>
    obtain ⟨s', c', hrun, hfault⟩ : Reported r (run true d.source (I.prepare name args) s c) := reported_run h hsite
    exact ⟨s', c', by rw [hrun], hfault⟩
  | @called call scripts' host' hprepared h =>
    have hprepare : run true d.source (I.prepare name args) s c
        = (.ok call, { s with scripts := scripts' }, { c with host := host' }) := by
      rw [run, hprepared]
    have hentered : (tell true { c with host := host' } Site.enter).site.isSome = true := by
      rwa [tell, if_pos rfl, Context.tell, Option.isSome_map]
    rw [hprepare]
    exact reported_run h hentered

theorem bindNames_clear (site : Site) (names : List String) (scripts : μ) (host : Host) :
    bindNames I site.clear names scripts host = bindNames I site names scripts host := by
  induction names generalizing scripts host with
  | nil => rfl
  | cons name rest ih =>
    simp only [bindNames, ih]
    rfl

/-- Moving to the connected state changes nothing else of an open engine. -/
theorem setState_connected {s : State μ} (hopen : IsOpen s) (c : Context) :
    setState .connected s c = (.ok (), { s with phase := .connected }, c) := by
  have hphase : s.phase ≠ .closed := fun h => hopen (by simp [h])
  unfold setState
  by_cases h : s.phase = .connected
  · rw [if_pos h, ← h]
  · rw [if_neg h, if_neg hphase]

theorem globalDispatch_isOpen {s : State μ} (hopen : IsOpen s) (c : Context) :
    (engine I).globalDispatch s c = (.ok { holdsSite := s.holdsSite, source := s.source }, s, c) := if_neg hopen

/-! ### Sessions -/

variable {s : Session (State μ)} {host host' : Host} {scripts : μ}

/-- A session with an open engine that has its site, and what the interpreter and the host are when all names are
bound. -/
structure Serving (I : Interpreter μ χ) (s : Session (State μ)) (host : Host) (scripts : μ) (host' : Host) : Prop where
  parts : ∃ engine site pending, s.engine = some engine ∧ s.site = some site ∧ IsOpen engine ∧
    engine.holdsSite = true ∧ bindNames I site engine.pending engine.scripts host = (.ok (), pending, scripts, host')

theorem Serving.connect (h : Serving I s host scripts host') :
    ∃ e c, Bound I e c scripts host' ∧
      ∀ use : State μ → Context → Except HostError α × Session (State μ) × Host,
        s.connect (engine I) host use = use e c := by
  obtain ⟨e, site, pending, hengine, hsite, hopen, hholds, hbind⟩ := h.parts
  have hcall : (engine I).setState .connected e ⟨some site, host⟩
      = (.ok (), { e with phase := .connected }, ⟨some site, host⟩) := setState_connected hopen _
  refine ⟨{ e with phase := .connected }, ⟨some site.clear, host⟩,
    ⟨⟨?_, hholds, rfl⟩, site.clear, pending, rfl, ?_⟩, s.connect_eq hengine hsite hcall⟩
  · have hscripts : e.holdsScripts = true := by
      by_contra hgiven
      exact hopen (by simp [hgiven])
    simp [IsOpen, hscripts]
  · exact (bindNames_clear site _ _ _).trans hbind

/-- What is raised when an expression is evaluated: by the text, or by the assignment that stands for it, or when its
result is read. -/
inductive EvalRaises (I : Interpreter μ χ) (text : String) (scripts : μ) (host : Host) (r : ErrorReport) :
    Variant → Prop
  | text (h : (I.evaluate text scripts host).1 = .error (.raised r)) : EvalRaises I text scripts host r .wide
  | assignment (h : (I.execute (I.assignment resultVariable text) scripts host).1 = .error (.raised r)) :
    EvalRaises I text scripts host r .narrow
  | result {scripts' : μ} {host' : Host}
    (hassigned : I.execute (I.assignment resultVariable text) scripts host = (.ok (), scripts', host'))
    (h : (I.global resultVariable scripts' host').1 = .error (.raised r)) : EvalRaises I text scripts host r .narrow

theorem surfaced_evalWide {text : String} {e : State μ} {c : Context}
    (h : Reported r ((engine I).parseText text { expression := true } e c)) :
    Surfaced r (s.evalWide (engine I) text e c).1 := by
  obtain ⟨e', c', hcall, hfault⟩ := h
  simp only [Session.evalWide, hcall]
  exact hfault.surfaced _

theorem surfaced_evalNarrow {text : String} {e : State μ} {c : Context} (hbound : Bound I e c scripts host)
    (h : EvalRaises I text scripts host r .narrow) : Surfaced r (s.evalNarrow (engine I) text e c).1 := by
  unfold Session.evalNarrow
  cases h with
  | assignment h =>
    obtain ⟨e', c', hcall, hfault⟩ : Reported r
        ((engine I).parseText ((engine I).assignment e resultVariable text) {} e c) := reported_parseText hbound h
    simp only [hcall]
    exact (hfault.surfaced _).against text
  | @result scripts' host'' hassigned h =>
    obtain ⟨e₁, c₁, hparse, hready, rfl, rfl⟩ : ∃ e₁ c₁, (engine I).parseText
        ((engine I).assignment e resultVariable text) {} e c = (.ok .undefined, e₁, c₁) ∧ _ :=
      hbound.executed rfl hassigned
    -- The dispatch is made by the engine that the assignment left, so that its calls tell the site as well.
    obtain ⟨e₂, c₂, hread, hfault⟩ : Reported r
        ((engine I).getProperty { holdsSite := e₁.holdsSite, source := e₁.source } resultVariable e₁ c₁) :=
      reported_getProperty ⟨rfl, hready.holdsSite⟩ hready.site h
    simp only [hparse, globalDispatch_isOpen hready.isOpen, hread]
    exact hfault.surfaced _

/-- **What an evaluated text throws surfaces**, in either variant. -/
theorem surfaced_eval {text : String} (hserving : Serving I s host scripts host')
    (h : EvalRaises I text scripts host' r s.variant) : Surfaced r (s.eval (engine I) text host).1 := by
  obtain ⟨e, c, hbound, hconnect⟩ := hserving.connect (α := Value)
  rw [Session.eval, hconnect]
  cases hvariant : s.variant with
  | wide =>
    rw [hvariant] at h
    cases h with
    | text h => exact surfaced_evalWide (reported_parseText hbound h)
  | narrow =>
    rw [hvariant] at h
    exact surfaced_evalNarrow hbound h

/-- **What a program throws when it is parsed surfaces.** -/
theorem surfaced_parseModule {text : String} (hserving : Serving I s host scripts host')
    (h : (I.execute text scripts host').1 = .error (.raised r)) :
    Surfaced r (s.parseModule (engine I) text host).1 := by
  obtain ⟨e, c, hbound, hconnect⟩ := hserving.connect (α := Handle Dispatch)
  obtain ⟨e', c', hcall, hfault⟩ : Reported r ((engine I).parseText text { persistent := true } e c) :=
    reported_parseText hbound h
  rw [Session.parseModule, hconnect]
  simp only [hcall]
  exact hfault.surfaced _

/-! ### Handles -/

section Handles

variable {handle : Handle Dispatch} {d : Dispatch} {e : State μ} {site : Site} {name : String}

theorem surfaced_use {what : String} {call : Dispatch → Action (State μ) Value} (hhandle : handle.dispatch = some d)
    (hname : name.isEmpty = false) (hengine : s.engine = some e) (hsite : s.site = some site)
    (h : Reported r (call d e ⟨some site.clear, host⟩)) : Surfaced r (handle.use what s name host call).1 := by
  obtain ⟨e', c', hcall, hfault⟩ := h
  simp only [Handle.use, hhandle, hname, hengine, hsite, hcall, Bool.false_eq_true, if_false]
  exact hfault.surfaced _

/-- **What a global function throws surfaces**, and what is thrown while it is looked up. -/
theorem surfaced_invoke {args : List Value} (hhandle : handle.dispatch = some d) (hd : InUse d)
    (hname : name.isEmpty = false) (hengine : s.engine = some e) (hsite : s.site = some site)
    (h : CallRaises I name args e.scripts host r) : Surfaced r (handle.invoke (engine I) s name args host).1 :=
  surfaced_use hhandle hname hengine hsite (reported_invokeMethod hd rfl h)

/-- **What the getter of a global throws surfaces.** -/
theorem surfaced_get (hhandle : handle.dispatch = some d) (hd : InUse d) (hname : name.isEmpty = false)
    (hengine : s.engine = some e) (hsite : s.site = some site)
    (h : (I.global name e.scripts host).1 = .error (.raised r)) :
    Surfaced r (handle.get (engine I) s name host).1 :=
  surfaced_use hhandle hname hengine hsite (reported_getProperty hd rfl h)

end Handles

end Interpreted

/-! ## What scripts of the language throw -/

namespace ProtoScript.Machine

open Interpreted

variable {s : Session (State Machine)} {host host' : Host} {m m₁ : Machine} {v : Val}

/-- An exception that a text does not catch surfaces, whoever evaluates it. -/
theorem surfaced_eval_thrown {text : String} (hserving : Serving interpreter s host m host') (hwide : s.variant = .wide)
    (hwhole : severed text = none) (hthrows : m.Throws host' (Script.runProgram text) v m₁)
    (hdescribes : m₁.Describes v r) : Surfaced r (s.eval (engine interpreter) text host).1 := by
  refine surfaced_eval hserving ?_
  rw [hwide]
  exact .text ((evaluate_raised_iff hwhole).mpr ⟨v, m₁, hthrows, hdescribes⟩)

/-- So it does in the narrow variant, where the text that runs is the assignment. -/
theorem surfaced_eval_thrown_narrow {text : String} (hserving : Serving interpreter s host m host')
    (hnarrow : s.variant = .narrow) (hwhole : severed (interpreter.assignment resultVariable text) = none)
    (hthrows : m.Throws host' (Script.runProgram (interpreter.assignment resultVariable text)) v m₁)
    (hdescribes : m₁.Describes v r) : Surfaced r (s.eval (engine interpreter) text host).1 := by
  refine surfaced_eval hserving ?_
  rw [hnarrow]
  exact .assignment ((execute_raised_iff hwhole).mpr ⟨v, m₁, hthrows, hdescribes⟩)

theorem surfaced_parseModule_thrown {text : String} (hserving : Serving interpreter s host m host')
    (hwhole : severed text = none) (hthrows : m.Throws host' (Script.runProgram text) v m₁)
    (hdescribes : m₁.Describes v r) : Surfaced r (s.parseModule (engine interpreter) text host).1 :=
  surfaced_parseModule hserving ((execute_raised_iff hwhole).mpr ⟨v, m₁, hthrows, hdescribes⟩)

variable {handle : Handle Dispatch} {d : Dispatch} {e : State Machine} {site : Site} {name : String}

/-- An exception that a global function does not catch surfaces. -/
theorem surfaced_invoke_thrown {args : List Value} {f : Val} {vals : Array Val} (hhandle : handle.dispatch = some d)
    (hd : InUse d) (hname : name.isEmpty = false) (hengine : s.engine = some e) (hsite : s.site = some site)
    (hprepared : interpreter.prepare name args e.scripts host = (.ok (f, vals), m, host'))
    (hthrows : m.Throws host' (Script.call f .undefined vals) v m₁) (hdescribes : m₁.Describes v r) :
    Surfaced r (handle.invoke (engine interpreter) s name args host).1 :=
  surfaced_invoke hhandle hd hname hengine hsite
    (.called hprepared (call_raised_iff.mpr ⟨v, m₁, hthrows, hdescribes⟩))

/-- So it does when the function is the result of a getter that throws, or when its arguments cannot be made. -/
theorem surfaced_invoke_unprepared {args : List Value} (hhandle : handle.dispatch = some d) (hd : InUse d)
    (hname : name.isEmpty = false) (hengine : s.engine = some e) (hsite : s.site = some site)
    (hthrows : e.scripts.Throws host (Script.prepareCall name args) v m₁) (hdescribes : m₁.Describes v r) :
    Surfaced r (handle.invoke (engine interpreter) s name args host).1 :=
  surfaced_invoke hhandle hd hname hengine hsite (.prepared (prepare_raised_iff.mpr ⟨v, m₁, hthrows, hdescribes⟩))

/-- An exception that the getter of a global does not catch surfaces. -/
theorem surfaced_get_thrown (hhandle : handle.dispatch = some d) (hd : InUse d) (hname : name.isEmpty = false)
    (hengine : s.engine = some e) (hsite : s.site = some site)
    (hthrows : e.scripts.Throws host (Script.getName Intrinsic.global.val name) v m₁) (hdescribes : m₁.Describes v r) :
    Surfaced r (handle.get (engine interpreter) s name host).1 :=
  surfaced_get hhandle hd hname hengine hsite (global_raised_iff.mpr ⟨v, m₁, hthrows, hdescribes⟩)

end ProtoScript.Machine

end ScriptHost
