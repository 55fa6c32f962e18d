import ScriptHost.Proofs.Simulation
import ScriptHost.Proofs.World
import Mathlib.Data.List.Forall2

/-!
# The two variants of evaluation

The narrow variant runs a statement that assigns a text to a global variable, and reads the variable.
Whether it answers as the wide variant does is a question about the interpreter alone: the sessions add
no difference of their own, and the faults of the statement are told as faults of the text.

* `Interpreter.byAssignment` — the interpreter that evaluates a text by assigning and reading.
* `ErrorReport.fault_against` — a fault, with its source line read from the text of a report.
* `World.narrow_eq_wide` — **the variants agree if evaluating simulates assigning and reading**: in every
  world, after every history, over any number of sessions and handles.
-/

namespace ScriptHost

/-! ## Source lines -/

/-- Whether every line of a text has a number. -/
def IsShort (text : String) : Prop := (Text.lines text).length < positionLimit

theorem lineAt?_succPosition {text : String} (h : IsShort text) (line : Nat) :
    Text.lineAt? text (succPosition line - 1) = Text.lineAt? text line := by
  by_cases hline : line < positionLimit
  · rw [succPosition, Nat.min_eq_left hline, Nat.succ_sub_one]
  · have hpast (n : Nat) (hn : positionLimit ≤ n + 1) : Text.lineAt? text n = none := by
      have : (Text.lines text).length ≤ n := by
        unfold IsShort at h
        omega
      simp [Text.lineAt?, this]
    rw [hpast line (by omega), hpast _ (by rw [succPosition, Nat.min_eq_right (by omega)]; decide)]

/-- **A fault is anchored to a text.**  Whatever text a report was made for, its fault against another
text is the fault of the report for that text. -/
theorem ErrorReport.fault_against (r : ErrorReport) {text : String} (h : IsShort text) :
    r.fault.against text = { r with sourceText := some text }.fault := by
  have hline : succPosition r.line ≠ 0 := by
    have : 0 < succPosition r.line := Nat.lt_min.mpr ⟨by omega, by decide⟩
    omega
  unfold Fault.against ErrorReport.fault
  simp only [Fault.make, hline, if_false, lineAt?_succPosition h]
  rfl

theorem HostError.against_against (e : HostError) (text : String) :
    (e.against text).against text = e.against text := by
  cases e <;> rfl

/-! ## Evaluation by assignment -/

variable {μ χ α : Type}

/-- The interpreter that evaluates a text by assigning it to a global variable and reading that. -/
def Interpreter.byAssignment (I : Interpreter μ χ) : Interpreter μ χ :=
  { I with
    evaluate := fun text scripts host =>
      match I.execute (I.assignment resultVariable text) scripts host with
      | (.error f, scripts, host) => (.error f, scripts, host)
      | (.ok _, scripts, host) => I.global resultVariable scripts host }

namespace Interpreted

variable {R : μ → μ → Prop} {S : χ → χ → Prop} {I J : Interpreter μ χ} {s s' : State μ} {c : Context}

/-- The two ways of evaluating make no difference where no value is asked for. -/
theorem parseText_byAssignment (text : String) {flags : ParseFlags} (hflags : flags.expression = false) :
    parseText I.byAssignment text flags s c = parseText I text flags s c := by
  have hnames (site : Site) (names : List String) (scripts : μ) (host : Host) :
      bindNames I.byAssignment site names scripts host = bindNames I site names scripts host := by
    induction names generalizing scripts host with
    | nil => rfl
    | cons name rest ih =>
      simp only [bindNames, ih]
      rfl
  simp only [parseText, bindPending, hnames, hflags]
  rfl

/-! ## Failures -/

/-- The mailbox holds nothing. -/
def IsSilent (c : Context) : Prop := c.site.bind Site.fault = none

theorem isSilent_tell_enter (h : IsSilent c) (holds : Bool) : IsSilent (tell holds c Site.enter) := by
  cases holds with
  | false => exact h
  | true => obtain ⟨_ | _, _⟩ := c <;> rfl

/-- How a failure of the interpreter reaches the host, from a context with an empty mailbox. -/
def verdict (holds : Bool) (source : Option String) (c : Context) : Failure → HostError
  | .refused e => .nativeCallFailure e
  | .raised r => if holds && c.site.isSome then .scriptFault { r with sourceText := source }.fault
    else .nativeCallFailure .exception

/-- The failure of a call that told the site nothing. -/
theorem surface_of_isSilent (h : IsSilent c) (e : NativeError) : c.surface e = (.nativeCallFailure e, c) := by
  unfold Context.surface
  rw [show c.site.bind Site.fault = none from h]

theorem surface_surface (h : IsSilent c) (holds : Bool) (source : Option String) (f : Failure) :
    (surface holds source c f).2.surface (surface holds source c f).1 = (verdict holds source c f, c) := by
  cases f with
  | refused e => exact surface_of_isSilent h e
  | raised r =>
    cases holds with
    | false => exact surface_of_isSilent h .exception
    | true =>
      obtain ⟨site, host⟩ := c
      cases site with
      | none => rfl
      | some site =>
        obtain ⟨items, fault⟩ := site
        cases (show fault = none from h)
        rfl

/-- A failure is anchored to a text, whatever text the engine names. -/
theorem verdict_against {text : String} (h : IsShort text) (holds : Bool) (source : String) (c : Context)
    (f : Failure) : (verdict holds (some source) c f).against text = verdict holds (some text) c f := by
  cases f with
  | refused e => rfl
  | raised r =>
    simp only [verdict]
    split
    · exact congrArg HostError.scriptFault (ErrorReport.fault_against _ h)
    · rfl

/-! ## Evaluations -/

/-- A narrow session, and the wide one that goes with it. -/
inductive Widened (R : μ → μ → Prop) : Session (State μ) → Session (State μ) → Prop where
  | mk {language : String} {site : Option Site} {e e' : Option (State μ)} : Option.Rel (Alike R) e e' →
    Widened R ⟨language, e, site, .narrow⟩ ⟨language, e', site, .wide⟩

/-- The second result goes with the first: so does its session, and its answer is that of the first after a
change. -/
structure Counterpart (R : μ → μ → Prop) (change : Except HostError α → Except HostError α)
    (r r' : Except HostError α × Session (State μ) × Host) : Prop where
  answer : r'.1 = change r.1
  session : Widened R r.2.1 r'.2.1
  host : r'.2.2 = r.2.2

/-- Failures of an evaluation are anchored to its text. -/
def anchored (text : String) : Except HostError α → Except HostError α := Except.mapError (HostError.against text)

variable {n w : Session (State μ)} {text : String}

theorem Widened.update (h : Widened R n w) (hs : Alike R s s') (c : Context) :
    Widened R (n.update s c) (w.update s' c) := by
  cases h
  exact .mk (.some hs)

theorem Widened.fail (h : Widened R n w) (hs : Alike R s s') (e : NativeError) (c : Context) :
    Counterpart R id (n.fail e s c : Except HostError α × _ × _) (w.fail e s' c) :=
  ⟨rfl, h.update hs _, rfl⟩

/-- What a session makes of an answer of the interpreter: `source` is the text that ran, on an engine and
in a context with an empty mailbox. -/
def conclude (n : Session (State μ)) (source : String) (s : State μ) (c : Context) :
    Except Failure Value × μ × Host → Except HostError Value × Session (State μ) × Host
  | (.ok v, scripts, host) => (.ok v, n.update { s with scripts, source := some source } { c with host }, host)
  | (.error f, scripts, host) =>
    (.error (verdict s.holdsSite (some source) c f),
      n.update { s with scripts, source := some source } { c with host }, host)

theorem conclude_counterpart (h : Widened R n w) (hs : Alike R s s') (hshort : IsShort text) (source : String)
    (c : Context) {r r' : Except Failure Value × μ × Host} (hr : Matched R Eq r r') :
    Counterpart R (anchored text) (conclude n source s c r) (conclude w text s' c r') := by
  cases hr with
  | error hR =>
    refine ⟨?_, h.update (hs.withScripts hR _ _) _, rfl⟩
    simp only [conclude, hs.holdsSite]
    exact congrArg Except.error (verdict_against hshort _ source c _).symm
  | ok heq hR =>
    cases heq
    exact ⟨rfl, h.update (hs.withScripts hR _ _) _, rfl⟩

theorem run_ok {holds : Bool} {source : Option String} {act : Running μ Failure α} {v : α} {scripts : μ}
    {host : Host} (h : act s.scripts c.host = (.ok v, scripts, host)) :
    run holds source act s c = (.ok v, { s with scripts }, { c with host }) := by
  unfold run
  rw [h]

theorem run_error {holds : Bool} {source : Option String} {act : Running μ Failure α} {f : Failure} {scripts : μ}
    {host : Host} (h : act s.scripts c.host = (.error f, scripts, host)) :
    run holds source act s c = (.error (surface holds source { c with host } f).1, { s with scripts },
      (surface holds source { c with host } f).2) := by
  unfold run
  rw [h]

theorem evalWide_eq (w : Session (State μ)) {t : State μ} {c' : Context}
    (hparse : parseText I text { expression := true } s c = runText I text { expression := true } t c')
    (hsilent : IsSilent (tell t.holdsSite c' Site.enter)) :
    w.evalWide (engine I) text s c = conclude w text t (tell t.holdsSite c' Site.enter)
      (I.evaluate text t.scripts (tell t.holdsSite c' Site.enter).host) := by
  unfold Session.evalWide
  rw [show (engine I).parseText text { expression := true } s c = _ from hparse]
  unfold runText
  dsimp only
  rw [if_pos rfl]
  generalize tell t.holdsSite c' Site.enter = c₁ at hsilent ⊢
  rcases hrun : I.evaluate text t.scripts c₁.host with ⟨f | v, scripts, host⟩
  · rw [run_error (s := { t with source := some text }) hrun]
    dsimp only [Session.fail]
    rw [surface_surface (show IsSilent { c₁ with host } from hsilent)]
    rfl
  · rw [run_ok (s := { t with source := some text }) hrun]
    rfl

/-- Assigning a text and reading the variable is evaluating it by assignment.  Only the text that a failure
refers to may be another, and anchoring makes up for that. -/
theorem evalNarrow_eq (n : Session (State μ)) (text : String) {t : State μ} {c' : Context} (hopen : IsOpen t)
    (hparse : parseText I (I.assignment resultVariable text) {} s c
      = runText I (I.assignment resultVariable text) {} t c')
    (hsilent : IsSilent (tell t.holdsSite c' Site.enter)) :
    ∃ answer, n.evalNarrow (engine I) text s c = (answer,
        (conclude n (I.assignment resultVariable text) t (tell t.holdsSite c' Site.enter)
          (I.byAssignment.evaluate text t.scripts (tell t.holdsSite c' Site.enter).host)).2)
      ∧ anchored text answer = anchored text
        (conclude n (I.assignment resultVariable text) t (tell t.holdsSite c' Site.enter)
          (I.byAssignment.evaluate text t.scripts (tell t.holdsSite c' Site.enter).host)).1 := by
  unfold Session.evalNarrow
  rw [show (engine I).parseText ((engine I).assignment s resultVariable text) {} s c = _ from hparse]
  unfold runText
  dsimp only
  rw [if_neg Bool.false_ne_true]
  generalize tell t.holdsSite c' Site.enter = c₁ at hsilent ⊢
  generalize hstatement : I.assignment resultVariable text = statement
  rcases hexecute : I.execute statement t.scripts c₁.host with ⟨f | u, scripts, host⟩
  · have hwhole : I.byAssignment.evaluate text t.scripts c₁.host = (.error f, scripts, host) := by
      simp only [Interpreter.byAssignment, hstatement, hexecute]
    rw [hwhole, run_error (s := { t with source := some statement }) hexecute]
    dsimp only
    rw [surface_surface (show IsSilent { c₁ with host } from hsilent)]
    exact ⟨_, rfl, congrArg Except.error (HostError.against_against _ text)⟩
  · have hwhole : I.byAssignment.evaluate text t.scripts c₁.host = I.global resultVariable scripts host := by
      simp only [Interpreter.byAssignment, hstatement, hexecute]
    rw [hwhole, run_ok (s := { t with source := some statement }) hexecute]
    dsimp only
    -- the engine is still open, and a dispatch that was just made is not released
    have hdispatch (t : State μ) (c : Context) (ht : IsOpen t) : (engine I).globalDispatch t c
        = (.ok { holdsSite := t.holdsSite, source := t.source }, t, c) := if_neg ht
    rw [hdispatch { t with scripts, source := some statement } _ hopen]
    dsimp only [engine, whileHeld]
    rw [if_neg Bool.false_ne_true]
    rcases hread : I.global resultVariable scripts host with ⟨f | v, scripts', host'⟩
    · rw [run_error (s := { t with scripts, source := some statement }) (c := { c₁ with host }) hread]
      dsimp only
      rw [surface_surface (show IsSilent { c₁ with host := host' } from hsilent)]
      exact ⟨_, rfl, rfl⟩
    · rw [run_ok (s := { t with scripts, source := some statement }) (c := { c₁ with host }) hread]
      exact ⟨_, rfl, rfl⟩

theorem evalNarrow_counterpart (sim : Simulation R S I.byAssignment J) (h : Widened R n w) (hs : Alike R s s')
    (hshort : IsShort text) (hsilent : IsSilent c) :
    Counterpart R (anchored text) (n.evalNarrow (engine I) text s c) (w.evalWide (engine J) text s' c) := by
  obtain ⟨e, t, t', c', ht, hsite, hI, hJ⟩ | ⟨t, t', c', ht, hsite, hopen, hI, hJ⟩ := parseText_cases sim hs c
  · have hsilent' : IsSilent c' := by rwa [IsSilent, hsite]
    unfold Session.evalNarrow Session.evalWide
    rw [show (engine I).parseText _ {} s c = _ from (parseText_byAssignment _ rfl).symm.trans (hI _ {}),
      show (engine J).parseText text { expression := true } s' c = _ from hJ text _]
    dsimp only [Session.fail]
    rw [surface_of_isSilent hsilent']
    exact ⟨rfl, h.update ht c', rfl⟩
  · have hsilent' := isSilent_tell_enter (c := c') (by rwa [IsSilent, hsite]) t.holdsSite
    obtain ⟨answer, hnarrow, hanswer⟩ :=
      evalNarrow_eq n text hopen ((parseText_byAssignment _ rfl).symm.trans (hI _ {})) hsilent'
    rw [hnarrow, evalWide_eq w (hJ text { expression := true }) (ht.holdsSite ▸ hsilent'), ht.holdsSite]
    obtain ⟨hvalue, hsession, hhost⟩ := conclude_counterpart h ht hshort (I.assignment resultVariable text)
      (tell t.holdsSite c' Site.enter) (sim.evaluate ht.scripts text (tell t.holdsSite c' Site.enter).host)
    exact ⟨hvalue.trans hanswer.symm, hsession, hhost⟩

/-! ## Operations of sessions and handles -/

theorem setNamedItem_counterpart (h : Widened R n w) (name : String) (v : Value) (host : Host) :
    Counterpart R id (n.setNamedItem (engine I) name v host) (w.setNamedItem (engine J) name v host) := by
  unfold Session.setNamedItem
  by_cases hname : name.isEmpty
  · simp only [if_pos hname]
    exact ⟨rfl, h, rfl⟩
  · simp only [if_neg hname]
    cases id h with
    | @mk language site _ _ he =>
      cases he with
      | none => exact ⟨rfl, h, rfl⟩
      | some hs =>
        cases site with
        | none => exact ⟨rfl, h, rfl⟩
        | some site =>
          have hact := twin_addNamedItem (I := I) (J := J) hs name ⟨some (site.insert name v), host⟩
          dsimp only
          revert hact
          generalize (engine I).addNamedItem name _ _ = r, (engine J).addNamedItem name _ _ = r'
          rintro (ht | ⟨-, ht⟩)
          · exact ⟨rfl, h.update ht _, rfl⟩
          · exact ⟨rfl, h.update ht _, rfl⟩

/-- A change of answers that concerns faults only. -/
structure ConcernsFaults (change : Except HostError α → Except HostError α) : Prop where
  disposed : ∀ what, change (.error (.disposed what)) = .error (.disposed what)
  native : ∀ e, change (.error (.nativeCallFailure e)) = .error (.nativeCallFailure e)

theorem connect_counterpart (h : Widened R n w) {change : Except HostError α → Except HostError α}
    (hchange : ConcernsFaults change)
    {use use' : State μ → Context → Except HostError α × Session (State μ) × Host}
    (huse : ∀ s s' c, Alike R s s' → IsSilent c → Counterpart R change (use s c) (use' s' c)) (host : Host) :
    Counterpart R change (n.connect (engine I) host use) (w.connect (engine J) host use') := by
  unfold Session.connect
  cases id h with
  | @mk language site _ _ he =>
    cases he with
    | none => exact ⟨(hchange.disposed _).symm, h, rfl⟩
    | some hs =>
      cases site with
      | none => exact ⟨(hchange.disposed _).symm, h, rfl⟩
      | some site =>
        have hact := twin_setState (I := I) (J := J) hs .connected ⟨some site, host⟩
        dsimp only
        revert hact
        generalize (engine I).setState .connected _ _ = r, (engine J).setState .connected _ _ = r'
        rintro (ht | ⟨-, ht⟩)
        · exact ⟨(hchange.native _).symm, h.update ht _, rfl⟩
        · exact huse _ _ _ ht (by rename_i c; obtain ⟨_ | _, _⟩ := c <;> rfl)

/-- **An evaluation.**  A narrow session answers as a wide one that evaluates by assignment. -/
theorem eval_counterpart (sim : Simulation R S I.byAssignment J) (h : Widened R n w) (hshort : IsShort text)
    (host : Host) : Counterpart R (anchored text) (n.eval (engine I) text host) (w.eval (engine J) text host) := by
  refine connect_counterpart h ⟨fun _ => rfl, fun _ => rfl⟩ (fun s s' c hs hsilent => ?_) host
  cases id h
  exact evalNarrow_counterpart sim h hs hshort hsilent

theorem parseModule_counterpart (sim : Simulation R S I.byAssignment J) (h : Widened R n w) (text : String)
    (host : Host) : Counterpart R id (n.parseModule (engine I) text host) (w.parseModule (engine J) text host) := by
  refine connect_counterpart h ⟨fun _ => rfl, fun _ => rfl⟩ (fun s s' c hs _ => ?_) host
  obtain ⟨e, t, t', c', ht, -, hI, hJ⟩ | ⟨t, t', c', ht, -, hopen, hI, hJ⟩ := parseText_cases sim hs c
  · rw [show (engine I).parseText text { persistent := true } s c = _ from
        (parseText_byAssignment text rfl).symm.trans (hI text _),
      show (engine J).parseText text { persistent := true } s' c = _ from hJ text _]
    exact h.fail ht e c'
  · rw [show (engine I).parseText text { persistent := true } s c = _ from
        (parseText_byAssignment text rfl).symm.trans (hI text _),
      show (engine J).parseText text { persistent := true } s' c = _ from hJ text _]
    -- the text has run, and nothing is left of what was parsed before
    have hrun := twin_runText sim ht text { persistent := true } c'
    have hsource := runText_source (I := I.byAssignment) text { persistent := true } t c'
    have hsource' := runText_source (I := J) text { persistent := true } t' c'
    revert hrun hsource hsource'
    generalize runText I.byAssignment text _ t c' = r, runText J text _ t' c' = r'
    intro hrun hsource hsource'
    cases hrun with
    | error hu => exact h.fail hu _ _
    | @ok _ _ u u' c₁ _ hu =>
      have hdispatch := twin_globalDispatch (I := I) (J := J) hu (hsource'.trans hsource.symm) c₁
      dsimp only
      revert hdispatch
      generalize (engine I).globalDispatch u c₁ = r, (engine J).globalDispatch u' c₁ = r'
      rintro (hv | ⟨rfl, hv⟩)
      · exact h.fail hv _ _
      · exact ⟨rfl, h.update hv _, rfl⟩

/-- A call of a handle. -/
theorem use_counterpart (h : Widened R n w) (what : String) (handle : Handle Dispatch) (name : String)
    (host : Host) {call call' : Dispatch → Action (State μ) Value}
    (hcall : ∀ d s s' c, Alike R s s' → Twin R Eq (call d s c) (call' d s' c)) :
    Counterpart R id (handle.use what n name host call) (handle.use what w name host call') := by
  unfold Handle.use
  obtain ⟨d⟩ := handle
  cases d with
  | none => exact ⟨rfl, h, rfl⟩
  | some d =>
    dsimp only
    by_cases hname : name.isEmpty
    · simp only [if_pos hname]
      exact ⟨rfl, h, rfl⟩
    · simp only [if_neg hname]
      cases id h with
      | @mk language site _ _ he =>
        cases he with
        | none => exact ⟨rfl, h, rfl⟩
        | some hs =>
          cases site with
          | none => exact ⟨rfl, h, rfl⟩
          | some site =>
            have hact := hcall d _ _ ⟨some site.clear, host⟩ hs
            dsimp only
            revert hact
            generalize call d _ _ = r, call' d _ _ = r'
            rintro (ht | ⟨rfl, ht⟩)
            · exact h.fail ht _ _
            · exact ⟨rfl, h.update ht _, rfl⟩

theorem close_context (s : State μ) (c : Context) : (close s c).2 = c := by
  unfold close
  split <;> rfl

theorem close_counterpart (h : Widened R n w) (host : Host) :
    Widened R (n.close (engine I) host).1 (w.close (engine J) host).1
      ∧ (w.close (engine J) host).2 = (n.close (engine I) host).2 := by
  cases h with
  | @mk language site e e' he =>
    cases he with
    | none => exact ⟨.mk .none, rfl⟩
    | @some s s' hs =>
      refine ⟨.mk .none, ?_⟩
      show (close s' ⟨site, host⟩).2.host = (close s ⟨site, host⟩).2.host
      rw [close_context, close_context]

/-- A narrow session and a wide one start, or fail to start, for the same reason. -/
theorem start_counterpart (hR : ∀ x, R x x) (registry : Registry (State μ)) (language : String) (host : Host) :
    (∃ e host', Session.start (engine I) registry language .narrow host = (.error e, host')
        ∧ Session.start (engine J) registry language .wide host = (.error e, host')
        ∧ ∀ text, e.against text = e)
      ∨ ∃ n w host', Session.start (engine I) registry language .narrow host = (.ok n, host')
        ∧ Session.start (engine J) registry language .wide host = (.ok w, host') ∧ Widened R n w := by
  have hcapable : ¬Capabilities.required.missing ≠ .none := by decide
  unfold Session.start
  rw [show (engine J).initNew = (engine I).initNew from rfl,
    show (engine J).setSite = (engine I).setSite from rfl]
  split
  · exact .inl ⟨_, _, rfl, rfl, fun _ => rfl⟩
  · cases registry.lookup language with
    | none => exact .inl ⟨_, _, rfl, rfl, fun _ => rfl⟩
    | some factory =>
      simp only
      rcases factory host with ⟨e | s, host₁⟩
      · exact .inl ⟨_, _, rfl, rfl, fun _ => rfl⟩
      · simp only
        rw [if_neg (show ¬((engine I).capabilities s).missing ≠ .none from hcapable),
          if_neg (show ¬((engine J).capabilities s).missing ≠ .none from hcapable)]
        rcases (engine I).initNew ((engine I).setSite s ⟨some {}, host₁⟩).1
          ((engine I).setSite s ⟨some {}, host₁⟩).2 with ⟨e | u, t, c⟩
        · have hhost : (close t c).2.host = c.host := by rw [close_context]
          exact .inl ⟨_, _, congrArg (Prod.mk _) hhost, congrArg (Prod.mk _) hhost, fun _ => rfl⟩
        · exact .inr ⟨_, _, _, rfl, rfl, .mk (.some (.mk (hR t.scripts)))⟩

/-- Registering an item fails without a fault. -/
theorem anchored_setNamedItem (n : Session (State μ)) (name : String) (v : Value) (host : Host) (text : String) :
    anchored text (n.setNamedItem (engine I) name v host).1 = (n.setNamedItem (engine I) name v host).1 := by
  unfold Session.setNamedItem
  split
  · rfl
  · split
    · split <;> rfl
    · rfl

theorem anchored_setNamedItems (n : Session (State μ)) (items : List (String × Value)) (host : Host)
    (text : String) :
    anchored text (n.setNamedItems (engine I) host items).1 = (n.setNamedItems (engine I) host items).1 := by
  induction items generalizing n host with
  | nil => rfl
  | cons item rest ih =>
    have hitem := anchored_setNamedItem (I := I) n item.1 item.2 host text
    unfold Session.setNamedItems
    rcases hset : n.setNamedItem (engine I) item.1 item.2 host with ⟨e | u, n₁, host₁⟩
    · rw [hset] at hitem
      exact hitem
    · exact ih n₁ host₁

theorem setNamedItems_counterpart (h : Widened R n w) (items : List (String × Value)) (host : Host) :
    Counterpart R id (n.setNamedItems (engine I) host items) (w.setNamedItems (engine J) host items) := by
  induction items generalizing n w host with
  | nil => exact ⟨rfl, h, rfl⟩
  | cons item rest ih =>
    have hitem := setNamedItem_counterpart (I := I) (J := J) h item.1 item.2 host
    unfold Session.setNamedItems
    rcases hn : n.setNamedItem (engine I) item.1 item.2 host with ⟨answer, n₁, host₁⟩
    rcases hw : w.setNamedItem (engine J) item.1 item.2 host with ⟨answer', w₁, host₁'⟩
    rw [hn, hw] at hitem
    obtain ⟨hanswer, hsession, hhost⟩ := hitem
    cases hanswer
    cases hhost
    cases answer with
    | error e => exact ⟨rfl, hsession, rfl⟩
    | ok u => exact ih hsession host₁

/-- Evaluating once in a session of either variant. -/
theorem evalOnce_counterpart (sim : Simulation R S I.byAssignment J) (hshort : IsShort text)
    (registry : Registry (State μ)) (language : String) (items : List (String × Value)) (host : Host) :
    (evalOnce (engine J) registry language text items .wide host).1
        = anchored text (evalOnce (engine I) registry language text items .narrow host).1
      ∧ (evalOnce (engine J) registry language text items .wide host).2
        = (evalOnce (engine I) registry language text items .narrow host).2 := by
  unfold evalOnce
  obtain ⟨e, host₁, hn, hw, he⟩ | ⟨n, w, host₁, hn, hw, h⟩ :=
    start_counterpart (I := I) (J := J) sim.refl registry language host
  · rw [hn, hw]
    exact ⟨congrArg Except.error (he text).symm, rfl⟩
  · rw [hn, hw]
    have hset := setNamedItems_counterpart (I := I) (J := J) h items host₁
    have hfault := anchored_setNamedItems (I := I) n items host₁ text
    simp only
    rcases hn₁ : n.setNamedItems (engine I) host₁ items with ⟨answer, n₁, host₂⟩
    rcases hw₁ : w.setNamedItems (engine J) host₁ items with ⟨answer', w₁, host₂'⟩
    rw [hn₁, hw₁] at hset
    rw [hn₁] at hfault
    obtain ⟨hanswer, h₁, hhost⟩ := hset
    cases hanswer
    cases hhost
    cases answer with
    | error e =>
      exact ⟨congrArg Except.error (Except.error.inj hfault).symm, (close_counterpart h₁ host₂).2⟩
    | ok u =>
      obtain ⟨hvalue, h₂, hhost₂⟩ := eval_counterpart sim h₁ hshort host₂
      refine ⟨hvalue, ?_⟩
      simp only
      rw [hhost₂]
      exact (close_counterpart h₂ _).2

/-! ## Worlds -/

theorem forall₂_getElem? {β : Type} {P : α → β → Prop} {as : List α} {bs : List β} (h : List.Forall₂ P as bs)
    (i : Nat) : Option.Rel P as[i]? bs[i]? := by
  induction h generalizing i with
  | nil => exact .none
  | cons hab _ ih =>
    cases i with
    | zero => exact .some hab
    | succ i => exact ih i

theorem forall₂_set {β : Type} {P : α → β → Prop} {as : List α} {bs : List β} (h : List.Forall₂ P as bs)
    {a : α} {b : β} (hab : P a b) (i : Nat) : List.Forall₂ P (as.set i a) (bs.set i b) := by
  induction h generalizing i with
  | nil => exact .nil
  | cons hhead htail ih =>
    cases i with
    | zero => exact .cons hab htail
    | succ i => exact .cons hhead (ih i)

/-- The second world is the first one with wide sessions in the place of narrow ones. -/
structure Widening (R : μ → μ → Prop) (v v' : World (State μ) Dispatch) : Prop where
  sessions : List.Forall₂ (Widened R) v.sessions v'.sessions
  handles : v'.handles = v.handles
  host : v'.host = v.host

namespace Widening

variable {v v' : World (State μ) Dispatch}

theorem withSession (h : Widening R v v') (hs : Widened R n w) (i : Nat) (host : Host) :
    Widening R (v.withSession i n host) (v'.withSession i w host) :=
  ⟨forall₂_set h.sessions hs i, h.handles, rfl⟩

theorem onSession (h : Widening R v v') (i : Nat)
    {call call' : Session (State μ) → Host → Except HostError α × Session (State μ) × Host}
    {change : Except HostError α → Except HostError α} {value : α → Option Value} (changed : Outcome → Outcome)
    (hvalue : ∀ r, (change r).map value = changed (r.map value)) (hnone : changed (.ok none) = .ok none)
    (hcall : ∀ n w host, Widened R n w → Counterpart R change (call n host) (call' w host)) :
    (v'.onSession i call' value).1 = changed (v.onSession i call value).1
      ∧ Widening R (v.onSession i call value).2 (v'.onSession i call' value).2 := by
  unfold World.onSession
  have hrel := forall₂_getElem? h.sessions i
  revert hrel
  generalize v.sessions[i]? = session, v'.sessions[i]? = session'
  intro hrel
  cases hrel with
  | none => exact ⟨hnone.symm, h⟩
  | @some n w hs =>
    obtain ⟨hanswer, hsession, hhost⟩ := hcall n w v.host hs
    rw [h.host]
    dsimp only
    rw [hanswer, hhost]
    exact ⟨hvalue _, h.withSession hsession i _⟩

theorem onHandle (h : Widening R v v') (handle : Nat)
    {call call' : Handle Dispatch → Session (State μ) → Host → Except HostError Value × Session (State μ) × Host}
    (hcall : ∀ handle n w host, Widened R n w → Counterpart R id (call handle n host) (call' handle w host)) :
    (v'.onHandle handle call').1 = (v.onHandle handle call).1
      ∧ Widening R (v.onHandle handle call).2 (v'.onHandle handle call').2 := by
  unfold World.onHandle
  rw [h.handles]
  cases v.handles[handle]? with
  | none => exact ⟨rfl, h⟩
  | some entry => exact h.onSession entry.1 id (fun _ => rfl) rfl (hcall entry.2)

theorem start (h : Widening R v v') (hR : ∀ x, R x x) (registry : Registry (State μ)) (language : String) :
    (v'.start (engine J) registry language .wide).1 = (v.start (engine I) registry language .narrow).1
      ∧ Widening R (v.start (engine I) registry language .narrow).2
        (v'.start (engine J) registry language .wide).2 := by
  unfold World.start
  rw [h.host]
  obtain ⟨e, host, hn, hw, -⟩ | ⟨n, w, host, hn, hw, hs⟩ :=
    start_counterpart (I := I) (J := J) hR registry language v.host
  · rw [hn, hw]
    exact ⟨rfl, h.sessions, h.handles, rfl⟩
  · rw [hn, hw]
    exact ⟨rfl, List.rel_append h.sessions (.cons hs .nil), h.handles, rfl⟩

theorem parseModule (sim : Simulation R S I.byAssignment J) (h : Widening R v v') (i : Nat) (text : String) :
    (v'.parseModule (engine J) i text).1 = (v.parseModule (engine I) i text).1
      ∧ Widening R (v.parseModule (engine I) i text).2 (v'.parseModule (engine J) i text).2 := by
  unfold World.parseModule
  have hrel := forall₂_getElem? h.sessions i
  revert hrel
  generalize v.sessions[i]? = session, v'.sessions[i]? = session'
  intro hrel
  cases hrel with
  | none => exact ⟨rfl, h⟩
  | @some n w hs =>
    dsimp only
    rw [h.host]
    have hparse := parseModule_counterpart sim hs text v.host
    rcases hn : n.parseModule (engine I) text v.host with ⟨answer, n₁, host₁⟩
    rcases hw : w.parseModule (engine J) text v.host with ⟨answer', w₁, host₁'⟩
    rw [hn, hw] at hparse
    obtain ⟨hanswer, hsession, hhost⟩ := hparse
    cases hanswer
    cases hhost
    have hnext := h.withSession hsession i host₁
    cases answer with
    | error e => exact ⟨rfl, hnext⟩
    | ok handle => exact ⟨rfl, hnext.sessions, by simp only [h.handles], rfl⟩

theorem closeHandle (h : Widening R v v') (handle : Nat) :
    Widening R (v.closeHandle (engine I) handle) (v'.closeHandle (engine J) handle) := by
  unfold World.closeHandle
  rw [h.handles]
  cases v.handles[handle]? with
  | none => exact h
  | some entry =>
    dsimp only
    rw [h.host, show entry.2.close (engine J) v.host = entry.2.close (engine I) v.host from rfl]
    exact ⟨h.sessions, rfl, rfl⟩

theorem closeSession (h : Widening R v v') (i : Nat) :
    Widening R (v.closeSession (engine I) i) (v'.closeSession (engine J) i) := by
  unfold World.closeSession
  have hrel := forall₂_getElem? h.sessions i
  revert hrel
  generalize v.sessions[i]? = session, v'.sessions[i]? = session'
  intro hrel
  cases hrel with
  | none => exact h
  | some hs =>
    dsimp only
    obtain ⟨hclosed, hhost⟩ := close_counterpart (I := I) (J := J) hs v.host
    rw [h.host, hhost]
    exact h.withSession hclosed i _

end Widening

end Interpreted

/-! ## Histories -/

/-- The operation on sessions of a variant. -/
def Operation.ofVariant (variant : Variant) : Operation → Operation
  | .start language _ => .start language variant
  | .evalOnce language text items _ => .evalOnce language text items variant
  | op => op

/-- Every line of the text of an evaluation has a number. -/
def Operation.IsShort : Operation → Prop
  | .eval _ text | .evalOnce _ text _ _ => ScriptHost.IsShort text
  | _ => True

/-- The outcome of an operation; a fault of an evaluation is anchored to its text. -/
def Operation.anchored : Operation → Outcome → Outcome
  | .eval _ text, o | .evalOnce _ text _ _, o => o.mapError (HostError.against text)
  | _, o => o

namespace World

open Interpreted

variable {R : μ → μ → Prop} {S : χ → χ → Prop} {I J : Interpreter μ χ} {v v' : World (State μ) Dispatch}

theorem perform_widening (sim : Simulation R S I.byAssignment J) (h : Widening R v v')
    (registry : Registry (State μ)) {op : Operation} (hop : op.IsShort) :
    (v'.perform (engine J) registry (op.ofVariant .wide)).1
        = op.anchored (v.perform (engine I) registry (op.ofVariant .narrow)).1
      ∧ Widening R (v.perform (engine I) registry (op.ofVariant .narrow)).2
        (v'.perform (engine J) registry (op.ofVariant .wide)).2 := by
  cases op with
  | start language _ => exact h.start sim.refl registry language
  | setNamedItem i name value =>
    exact h.onSession i id (fun _ => rfl) rfl fun n w host hs =>
      setNamedItem_counterpart hs name value host
  | eval i text =>
    refine h.onSession i (Except.mapError (HostError.against text)) (fun r => ?_) rfl
      fun n w host hs => eval_counterpart sim hs hop host
    cases r <;> rfl
  | parseModule i text => exact h.parseModule sim i text
  | invoke handle name args =>
    exact h.onHandle handle fun d n w host hs =>
      use_counterpart hs _ d name host fun d s s' c halike => twin_invoke sim halike d name args c
  | get handle name =>
    exact h.onHandle handle fun d n w host hs =>
      use_counterpart hs _ d name host fun d s s' c halike => twin_getProperty sim halike d name c
  | closeHandle handle => exact ⟨rfl, h.closeHandle (I := I) (J := J) handle⟩
  | closeSession i => exact ⟨rfl, h.closeSession (I := I) (J := J) i⟩
  | evalOnce language text items _ =>
    obtain ⟨hanswer, hhost⟩ := evalOnce_counterpart sim hop registry language items v.host
    simp only [Operation.ofVariant, perform, h.host, hanswer, hhost]
    refine ⟨?_, h.sessions, h.handles, rfl⟩
    simp only [Operation.anchored, Interpreted.anchored]
    cases (evalOnce (engine I) registry language text items .narrow v.host).1 <;> rfl

theorem run_widening (sim : Simulation R S I.byAssignment J) (h : Widening R v v')
    (registry : Registry (State μ)) {history : List Operation} (hshort : ∀ op ∈ history, op.IsShort) :
    Widening R (v.run (engine I) registry (history.map (·.ofVariant .narrow)))
      (v'.run (engine J) registry (history.map (·.ofVariant .wide))) := by
  induction history generalizing v v' with
  | nil => exact h
  | cons op rest ih =>
    have hstep := (perform_widening sim h registry (hshort op List.mem_cons_self)).2
    exact ih hstep fun later hlater => hshort later (List.mem_cons_of_mem op hlater)

/-- **The variants agree if evaluating simulates assigning and reading.**  Whatever was done before, an
operation on wide sessions has the outcome that it has on narrow sessions, once faults of evaluations are
anchored to the texts that were evaluated. -/
theorem narrow_eq_wide (sim : Simulation R S I.byAssignment J) (registry : Registry (State μ)) (host : Host)
    {history : List Operation} {op : Operation} (hhistory : ∀ op ∈ history, op.IsShort) (hop : op.IsShort) :
    (((fresh host).run (engine J) registry (history.map (·.ofVariant .wide))).perform (engine J) registry
        (op.ofVariant .wide)).1
      = op.anchored (((fresh host).run (engine I) registry (history.map (·.ofVariant .narrow))).perform
          (engine I) registry (op.ofVariant .narrow)).1 := by
  have hfresh : Widening R (fresh host) (fresh host) := ⟨.nil, rfl, rfl⟩
  exact (perform_widening sim (run_widening sim hfresh registry hhistory) registry hop).1

/-- Without any assumption: narrow evaluation is wide evaluation by assignment. -/
theorem narrow_eq_byAssignment (I : Interpreter μ χ) (registry : Registry (State μ)) (host : Host)
    {history : List Operation} {op : Operation} (hhistory : ∀ op ∈ history, op.IsShort) (hop : op.IsShort) :
    (((fresh host).run (engine I.byAssignment) registry (history.map (·.ofVariant .wide))).perform
        (engine I.byAssignment) registry (op.ofVariant .wide)).1
      = op.anchored (((fresh host).run (engine I) registry (history.map (·.ofVariant .narrow))).perform
          (engine I) registry (op.ofVariant .narrow)).1 :=
  narrow_eq_wide (.rfl I.byAssignment) registry host hhistory hop

end World

end ScriptHost
