import ScriptHost.Engine.Interpreted

/-!
# Interpreters that stand for each other

When do two interpreters make engines that nobody can tell apart?  A simulation relates the states of two
interpreters, call by call; here it is lifted to the calls of the engines over them.  What such engines
may differ in, besides the states of their interpreters, is the text that each of them parsed last.

* `Simulation` — an interpreter that answers as another one does.
* `Interpreted.Alike`, `Interpreted.Twin` — engines, and results of their calls, that go together.
* `Interpreted.parseText_cases` — two engines refuse every text, or run every text.
-/

namespace ScriptHost

variable {μ χ α ε : Type}

/-- Results of two computations: the same failure or answers that stand for each other, states that stand
for each other, and the same host. -/
inductive Matched (R : μ → μ → Prop) (S : α → α → Prop) :
    Except ε α × μ × Host → Except ε α × μ × Host → Prop where
  | error {e : ε} {x y : μ} {host : Host} : R x y → Matched R S (.error e, x, host) (.error e, y, host)
  | ok {a b : α} {x y : μ} {host : Host} : S a b → R x y → Matched R S (.ok a, x, host) (.ok b, y, host)

/-- Two interpreters answer alike in states that `R` relates; `S` relates their prepared calls. -/
structure Simulation (R : μ → μ → Prop) (S : χ → χ → Prop) (I J : Interpreter μ χ) : Prop where
  language : J.language = I.language
  refl : ∀ x, R x x
  bind : ∀ {x y}, R x y → ∀ name v host, Matched R Eq (I.bind name v x host) (J.bind name v y host)
  evaluate : ∀ {x y}, R x y → ∀ text host, Matched R Eq (I.evaluate text x host) (J.evaluate text y host)
  execute : ∀ {x y}, R x y → ∀ text host, Matched R Eq (I.execute text x host) (J.execute text y host)
  global : ∀ {x y}, R x y → ∀ name host, Matched R Eq (I.global name x host) (J.global name y host)
  prepare : ∀ {x y}, R x y → ∀ name args host,
    Matched R S (I.prepare name args x host) (J.prepare name args y host)
  call : ∀ {x y}, R x y → ∀ {a b}, S a b → ∀ host, Matched R Eq (I.call a x host) (J.call b y host)

theorem Matched.refl (r : Except ε α × μ × Host) : Matched Eq Eq r r := by
  obtain ⟨e | a, x, host⟩ := r
  · exact .error rfl
  · exact .ok rfl rfl

theorem Simulation.rfl (I : Interpreter μ χ) : Simulation Eq Eq I I where
  language := Eq.refl _
  refl _ := Eq.refl _
  bind h _ _ _ := h ▸ .refl _
  evaluate h _ _ := h ▸ .refl _
  execute h _ _ := h ▸ .refl _
  global h _ _ := h ▸ .refl _
  prepare h _ _ _ := h ▸ .refl _
  call h _ _ h' _ := h ▸ h' ▸ .refl _

namespace Interpreted

/-! ## Engines -/

/-- Engines whose interpreters are in states that stand for each other, and that may have parsed
different texts last. -/
inductive Alike (R : μ → μ → Prop) : State μ → State μ → Prop where
  | mk {x y : μ} {holdsScripts holdsSite : Bool} {phase : EngineState} {pending : List String}
    {source source' : Option String} : R x y →
    Alike R ⟨x, holdsScripts, holdsSite, phase, pending, source⟩
      ⟨y, holdsScripts, holdsSite, phase, pending, source'⟩

/-- Results of two actions: the same failure or answers that stand for each other, engines that are alike,
and the same context. -/
inductive Twin (R : μ → μ → Prop) (S : α → α → Prop) :
    Except NativeError α × State μ × Context → Except NativeError α × State μ × Context → Prop where
  | error {e : NativeError} {s s' : State μ} {c : Context} :
    Alike R s s' → Twin R S (.error e, s, c) (.error e, s', c)
  | ok {a b : α} {s s' : State μ} {c : Context} :
    S a b → Alike R s s' → Twin R S (.ok a, s, c) (.ok b, s', c)

/-- The engine answers calls. -/
def IsOpen (s : State μ) : Prop := ¬(s.phase = .closed || !s.holdsScripts) = true

variable {R : μ → μ → Prop} {S : χ → χ → Prop} {T : α → α → Prop} {I J : Interpreter μ χ}
  {s s' : State μ} {c : Context}

theorem Alike.isOpen_iff (h : Alike R s s') : IsOpen s' ↔ IsOpen s := by
  cases h
  exact .rfl

theorem Alike.withScripts {x y : μ} (h : Alike R s s') (hR : R x y) (source source' : Option String) :
    Alike R { s with scripts := x, source } { s' with scripts := y, source := source' } := by
  cases h
  exact .mk hR

theorem Alike.scripts (h : Alike R s s') : R s.scripts s'.scripts := by
  cases h
  assumption

theorem Alike.holdsSite (h : Alike R s s') : s'.holdsSite = s.holdsSite := by
  cases h
  rfl

theorem twin_whileOpen {act act' : Action (State μ) α} (h : Alike R s s')
    (hact : Twin R T (act s c) (act' s' c)) : Twin R T (whileOpen act s c) (whileOpen act' s' c) := by
  unfold whileOpen
  by_cases hopen : IsOpen s
  · rwa [if_neg hopen, if_neg (h.isOpen_iff.mpr hopen)]
  · have hopen' := mt h.isOpen_iff.mp hopen
    rw [IsOpen, Decidable.not_not] at hopen hopen'
    rw [if_pos hopen, if_pos hopen']
    cases h with
    | mk hR => exact .error (.mk hR)

theorem twin_setState (h : Alike R s s') (target : EngineState) (c : Context) :
    Twin R Eq ((engine I).setState target s c) ((engine J).setState target s' c) := by
  cases h with
  | @mk x y holdsScripts holdsSite phase pending source source' hR =>
    simp only [engine, setState]
    by_cases htarget : phase = target
    · simp only [if_pos htarget]
      exact .ok rfl (.mk hR)
    · simp only [if_neg htarget]
      by_cases hclosed : phase = .closed
      · simp only [if_pos hclosed]
        exact .error (.mk hR)
      · simp only [if_neg hclosed]
        exact .ok rfl (.mk hR)

theorem twin_addNamedItem (h : Alike R s s') (name : String) (c : Context) :
    Twin R Eq ((engine I).addNamedItem name s c) ((engine J).addNamedItem name s' c) := by
  simp only [engine]
  refine twin_whileOpen h ?_
  cases h with
  | @mk x y holdsScripts holdsSite phase pending source source' hR =>
    by_cases hmem : name ∈ pending
    · simp only [if_pos hmem]
      exact .ok rfl (.mk hR)
    · simp only [if_neg hmem]
      exact .ok rfl (.mk hR)

theorem matched_bindNames (sim : Simulation R S I J) (site : Site) (names : List String) {x y : μ} (h : R x y)
    (host : Host) : ∃ answer pending x' y' host', R x' y'
      ∧ bindNames I site names x host = (answer, pending, x', host')
      ∧ bindNames J site names y host = (answer, pending, y', host') := by
  induction names generalizing x y host with
  | nil => exact ⟨_, _, x, y, host, h, rfl, rfl⟩
  | cons name rest ih =>
    simp only [bindNames]
    cases site.item? name with
    | none => exact ⟨_, _, x, y, host, h, rfl, rfl⟩
    | some v =>
      have hbind := sim.bind h name v host
      dsimp only
      revert hbind
      generalize I.bind name v x host = r, J.bind name v y host = r'
      rintro (hR | ⟨-, hR⟩)
      · exact ⟨_, _, _, _, _, hR, rfl, rfl⟩
      · exact ih hR _

theorem twin_bindPending (sim : Simulation R S I J) (h : Alike R s s') (c : Context) :
    Twin R Eq (bindPending I s c) (bindPending J s' c) := by
  cases h with
  | @mk x y holdsScripts holdsSite phase pending source source' hR =>
    unfold bindPending
    simp only
    cases (if holdsSite then c.site else none) with
    | none => exact .ok rfl (.mk hR)
    | some site =>
      obtain ⟨answer, pending', x', y', host', hR', hI, hJ⟩ := matched_bindNames sim site pending hR c.host
      simp only [hI, hJ]
      cases answer with
      | error e => exact .error (.mk hR')
      | ok u => exact .ok rfl (.mk hR')

theorem twin_run {act act' : Running μ Failure α} (h : Alike R s s') (holds : Bool) (source : Option String)
    (c : Context) (hact : Matched R T (act s.scripts c.host) (act' s'.scripts c.host)) :
    Twin R T (run holds source act s c) (run holds source act' s' c) := by
  unfold run
  revert hact
  generalize act s.scripts c.host = r, act' s'.scripts c.host = r'
  rintro (hR | ⟨hT, hR⟩)
  · exact .error (h.withScripts hR _ _)
  · exact .ok hT (h.withScripts hR _ _)

theorem twin_whileHeld {act act' : Action (State μ) α} (d : Dispatch) (h : Alike R s s')
    (hact : Twin R T (act s c) (act' s' c)) : Twin R T (whileHeld d act s c) (whileHeld d act' s' c) := by
  unfold whileHeld
  split
  · exact .error h
  · exact hact

theorem twin_getProperty (sim : Simulation R S I J) (h : Alike R s s') (d : Dispatch) (name : String)
    (c : Context) : Twin R Eq ((engine I).getProperty d name s c) ((engine J).getProperty d name s' c) :=
  twin_whileHeld d h (twin_run h _ _ c (sim.global h.scripts name c.host))

theorem twin_invoke (sim : Simulation R S I J) (h : Alike R s s') (d : Dispatch) (name : String)
    (args : List Value) (c : Context) : Twin R Eq (invoke I d name args s c) (invoke J d name args s' c) := by
  refine twin_whileHeld d h ?_
  have hprepare := twin_run h d.holdsSite d.source c (sim.prepare h.scripts name args c.host)
  revert hprepare
  generalize run d.holdsSite d.source (I.prepare name args) s c = r,
    run d.holdsSite d.source (J.prepare name args) s' c = r'
  rintro (hs | ⟨hS, hs⟩)
  · exact .error hs
  · exact twin_run hs _ _ _ (sim.call hs.scripts hS _)

/-! ## Parsing -/

/-- Runs a text once all names are bound. -/
def runText (I : Interpreter μ χ) (text : String) (flags : ParseFlags) : Action (State μ) Value := fun s c =>
  let s := { s with source := some text }
  let c := tell s.holdsSite c Site.enter
  if flags.expression then run s.holdsSite s.source (I.evaluate text) s c
  else match run s.holdsSite s.source (I.execute text) s c with
    | (.ok _, s, c) => (.ok .undefined, s, c)
    | (.error e, s, c) => (.error e, s, c)

theorem parseText_isOpen (hopen : IsOpen s) (text : String) (flags : ParseFlags) :
    parseText I text flags s c = match bindPending I s c with
      | (.error e, s, c) => (.error e, s, c)
      | (.ok _, s, c) => runText I text flags s c := if_neg hopen

theorem bindPending_frame (s : State μ) (c : Context) :
    (bindPending I s c).2.2.site = c.site ∧ (IsOpen s → IsOpen (bindPending I s c).2.1) := by
  unfold bindPending
  split
  · exact ⟨rfl, id⟩
  · exact ⟨rfl, id⟩

theorem twin_runText (sim : Simulation R S I J) (h : Alike R s s') (text : String) (flags : ParseFlags)
    (c : Context) : Twin R Eq (runText I text flags s c) (runText J text flags s' c) := by
  cases h with
  | @mk x y holdsScripts holdsSite phase pending source source' hR =>
    have hs : Alike R ⟨x, holdsScripts, holdsSite, phase, pending, some text⟩
        ⟨y, holdsScripts, holdsSite, phase, pending, some text⟩ := .mk hR
    unfold runText
    dsimp only
    by_cases hflags : flags.expression
    · simp only [if_pos hflags]
      exact twin_run hs holdsSite (some text) _ (sim.evaluate hR text _)
    · simp only [if_neg hflags]
      have hrun := twin_run hs holdsSite (some text) (tell holdsSite c Site.enter) (sim.execute hR text _)
      revert hrun
      generalize run holdsSite (some text) (I.execute text) _ _ = r,
        run holdsSite (some text) (J.execute text) _ _ = r'
      rintro (ht | ⟨-, ht⟩)
      · exact .error ht
      · exact .ok rfl ht

theorem runText_source (text : String) (flags : ParseFlags) (s : State μ) (c : Context) :
    (runText I text flags s c).2.1.source = some text := by
  have hrun {β : Type} (act : Running μ Failure β) (s : State μ) (c : Context) :
      (run s.holdsSite s.source act s c).2.1.source = s.source := by
    unfold run
    dsimp only
    split <;> rfl
  unfold runText
  dsimp only
  split
  · exact hrun _ { s with source := some text } _
  · have hlatest := hrun (I.execute text) { s with source := some text } (tell s.holdsSite c Site.enter)
    dsimp only at hlatest
    revert hlatest
    generalize run s.holdsSite (some text) (I.execute text) _ _ = r
    obtain ⟨e | u, t, c'⟩ := r <;> exact id

/-- A dispatch remembers which text was parsed last. -/
theorem twin_globalDispatch (h : Alike R s s') (hsource : s'.source = s.source) (c : Context) :
    Twin R Eq ((engine I).globalDispatch s c) ((engine J).globalDispatch s' c) := by
  simp only [engine]
  refine twin_whileOpen h ?_
  rw [h.holdsSite, hsource]
  exact .ok rfl h

/-- Two engines refuse every text before it runs, or they run every text. -/
theorem parseText_cases (sim : Simulation R S I J) (h : Alike R s s') (c : Context) :
    (∃ e t t' c', Alike R t t' ∧ c'.site = c.site ∧
      (∀ text flags, parseText I text flags s c = (.error e, t, c')) ∧
      ∀ text flags, parseText J text flags s' c = (.error e, t', c'))
    ∨ ∃ t t' c', Alike R t t' ∧ c'.site = c.site ∧ IsOpen t ∧
      (∀ text flags, parseText I text flags s c = runText I text flags t c') ∧
      ∀ text flags, parseText J text flags s' c = runText J text flags t' c' := by
  by_cases hopen : IsOpen s
  · obtain ⟨hsite, hstays⟩ := bindPending_frame (I := I) s c
    have hbind := twin_bindPending sim h c
    have hI (text : String) (flags : ParseFlags) := parseText_isOpen (I := I) (c := c) hopen text flags
    have hJ (text : String) (flags : ParseFlags) :=
      parseText_isOpen (I := J) (c := c) (h.isOpen_iff.mpr hopen) text flags
    revert hsite hstays hbind hI hJ
    generalize bindPending I s c = r, bindPending J s' c = r'
    intro hsite hstays hbind hI hJ
    cases hbind with
    | error ht => exact .inl ⟨_, _, _, _, ht, hsite, hI, hJ⟩
    | ok _ ht => exact .inr ⟨_, _, _, ht, hsite, hstays hopen, hI, hJ⟩
  · have hopen' := mt h.isOpen_iff.mp hopen
    rw [IsOpen, Decidable.not_not] at hopen hopen'
    refine .inl ⟨.invalidState s.phase, s, s', c, h, rfl, fun _ _ => if_pos hopen, fun _ _ => ?_⟩
    rw [show s.phase = s'.phase by cases h; rfl]
    exact if_pos hopen'

end Interpreted

end ScriptHost
