import ScriptHost.Handle
import ScriptHost.Engine.Rehearsed

/-!
# Hosts that engines cannot tell apart

What a host has on record is there for whoever watches it; an engine need not read it.  A relation of
hosts is overlooked by an engine if every call of it answers alike in related hosts and leaves related
hosts behind.  Here this is lifted from the calls of an engine to those of sessions and handles.

* `Agreed` — results with one answer, the rest of which is related.
* `Engine.Overlooks`, `Registry.Overlooks` — engines and factories that do not see a difference.
* `Session.agreed_start`, `Session.agreed_eval`, `Handle.agreed_use` and others — no session or handle
  sees it either.
* `Engine.Rehearsed.overlooks_record` — a rehearsed engine does not see what is on record.
-/

namespace ScriptHost

/-- Two results with the same answer, in related places. -/
inductive Agreed {α γ : Type} (R : γ → γ → Prop) : α × γ → α × γ → Prop where
  | mk {a : α} {x y : γ} : R x y → Agreed R (a, x) (a, y)

namespace Agreed

variable {α β γ : Type} {R : γ → γ → Prop}

theorem answer {r r' : α × γ} (h : Agreed R r r') : r.1 = r'.1 := by
  cases h with
  | mk h => rfl

theorem rest {r r' : α × γ} (h : Agreed R r r') : R r.2 r'.2 := by
  cases h with
  | mk h => exact h

/-- What goes on with two such results only needs to be looked at for one answer. -/
@[elab_as_elim]
theorem elim {r r' : α × γ} {motive : α × γ → α × γ → Prop} (h : Agreed R r r')
    (mk : ∀ a x y, R x y → motive (a, x) (a, y)) : motive r r' := by
  cases h with
  | mk h => exact mk _ _ _ h

/-- The same for an answer that comes with a state. -/
@[elab_as_elim]
theorem elim_state {r r' : α × β × γ} {motive : α × β × γ → α × β × γ → Prop}
    (h : Agreed (Agreed R) r r') (mk : ∀ a b x y, R x y → motive (a, b, x) (a, b, y)) :
    motive r r' :=
  h.elim fun a _ _ h => h.elim fun b x y h => mk a b x y h

end Agreed

/-- Contexts with the same site and related hosts. -/
inductive Context.Alike (same : Host → Host → Prop) : Context → Context → Prop where
  | mk {site : Option Site} {host host' : Host} :
    same host host' → Context.Alike same ⟨site, host⟩ ⟨site, host'⟩

/-- The action answers alike in contexts that are alike, and leaves such contexts. -/
def Action.Overlooks {σ α : Type} (same : Host → Host → Prop) (act : Action σ α) : Prop :=
  ∀ s c c', Context.Alike same c c' → Agreed (Agreed (Context.Alike same)) (act s c) (act s c')

/-- No call of the engine tells related hosts apart. -/
structure Engine.Overlooks {σ δ : Type} (E : Engine σ δ) (same : Host → Host → Prop) : Prop where
  setSite : ∀ s c c', Context.Alike same c c' →
    Agreed (Context.Alike same) (E.setSite s c) (E.setSite s c')
  initNew : Action.Overlooks same E.initNew
  setState : ∀ target, Action.Overlooks same (E.setState target)
  addNamedItem : ∀ name, Action.Overlooks same (E.addNamedItem name)
  parseText : ∀ text flags, Action.Overlooks same (E.parseText text flags)
  globalDispatch : Action.Overlooks same E.globalDispatch
  close : ∀ s c c', Context.Alike same c c' →
    Agreed (Context.Alike same) (E.close s c) (E.close s c')
  getProperty : ∀ d name, Action.Overlooks same (E.getProperty d name)
  invokeMethod : ∀ d name args, Action.Overlooks same (E.invokeMethod d name args)
  release : ∀ d c c', Context.Alike same c c' →
    Agreed (Context.Alike same) (E.release d c) (E.release d c')

/-- No factory of the registry tells related hosts apart. -/
def Registry.Overlooks {σ : Type} (r : Registry σ) (same : Host → Host → Prop) : Prop :=
  ∀ language f, r.lookup language = some f →
    ∀ host host', same host host' → Agreed same (f host) (f host')

variable {σ δ α : Type} {E : Engine σ δ} {same : Host → Host → Prop}

namespace Context.Alike

variable {c c' : Context}

theorem host (h : c.Alike same c') : same c.host c'.host := by
  cases h with
  | mk h => exact h

theorem tell (h : c.Alike same c') (f : Site → Site) : (c.tell f).Alike same (c'.tell f) := by
  cases h with
  | mk h => exact .mk h

theorem surface (h : c.Alike same c') (e : NativeError) :
    Agreed (Context.Alike same) (c.surface e) (c'.surface e) := by
  cases h with
  | @mk site host host' h =>
    unfold Context.surface
    dsimp only
    split
    · exact .mk (.mk h)
    · exact .mk (.mk h)

end Context.Alike

variable {host host' : Host} {c c' : Context}

/-! ## Sessions -/

namespace Session

theorem agreed_update (s : Session σ) (engine : σ) (answer : α) (h : c.Alike same c') :
    Agreed (Agreed same) (answer, s.update engine c, c.host)
      (answer, s.update engine c', c'.host) := by
  cases h with
  | mk h => exact .mk (.mk h)

theorem agreed_fail (s : Session σ) (e : NativeError) (engine : σ) (h : c.Alike same c') :
    Agreed (Agreed same) (s.fail (α := α) e engine c) (s.fail (α := α) e engine c') := by
  unfold Session.fail
  refine Agreed.elim (h.surface e) fun _ _ _ h => ?_
  exact agreed_update s engine _ h

theorem agreed_close (hE : E.Overlooks same) (s : Session σ) (h : same host host') :
    Agreed same (s.close E host) (s.close E host') := by
  unfold Session.close
  cases s.engine with
  | none => exact .mk h
  | some engine =>
    exact .mk (hE.close engine ⟨s.site, host⟩ ⟨s.site, host'⟩ (.mk h)).rest.host

theorem agreed_setNamedItem (hE : E.Overlooks same) (s : Session σ) (name : String) (v : Value)
    (h : same host host') :
    Agreed (Agreed same) (s.setNamedItem E name v host) (s.setNamedItem E name v host') := by
  unfold Session.setNamedItem
  by_cases hname : name.isEmpty
  · simp only [if_pos hname]
    exact .mk (.mk h)
  simp only [if_neg hname]
  cases s.engine with
  | none => exact .mk (.mk h)
  | some engine =>
    cases s.site with
    | none => exact .mk (.mk h)
    | some site =>
      dsimp only
      refine Agreed.elim_state (hE.addNamedItem name engine ⟨some (site.insert name v), host⟩
        ⟨some (site.insert name v), host'⟩ (.mk h)) fun answer engine _ _ h => ?_
      cases answer with
      | error e => exact agreed_update s engine _ h
      | ok _ => exact agreed_update s engine _ h

theorem agreed_connect (hE : E.Overlooks same) (s : Session σ)
    {use : σ → Context → Except HostError α × Session σ × Host}
    (huse : ∀ engine c c', Context.Alike same c c' →
      Agreed (Agreed same) (use engine c) (use engine c')) (h : same host host') :
    Agreed (Agreed same) (s.connect E host use) (s.connect E host' use) := by
  unfold Session.connect
  cases s.engine with
  | none => exact .mk (.mk h)
  | some engine =>
    cases s.site with
    | none => exact .mk (.mk h)
    | some site =>
      dsimp only
      refine Agreed.elim_state (hE.setState .connected engine ⟨some site, host⟩
        ⟨some site, host'⟩ (.mk h)) fun answer engine _ _ h => ?_
      cases answer with
      | error e => exact agreed_update s engine _ h
      | ok _ => exact huse engine _ _ (h.tell Site.clear)

theorem agreed_evalWide (hE : E.Overlooks same) (s : Session σ) (text : String) (engine : σ)
    (h : c.Alike same c') :
    Agreed (Agreed same) (s.evalWide E text engine c) (s.evalWide E text engine c') := by
  unfold Session.evalWide
  refine Agreed.elim_state (hE.parseText text { expression := true } engine c c' h)
    fun answer engine _ _ h => ?_
  cases answer with
  | error e => exact agreed_fail s e engine h
  | ok v => exact agreed_update s engine _ h

/-- Giving up the dispatch by which the variable was read. -/
theorem agreed_release (hE : E.Overlooks same) (s : Session σ) (d : δ) (engine : σ) (answer : α)
    (h : c.Alike same c') :
    Agreed (Agreed same) (answer, s.update engine (E.release d c).2, (E.release d c).2.host)
      (answer, s.update engine (E.release d c').2, (E.release d c').2.host) := by
  exact agreed_update s engine answer (hE.release d c c' h).rest

theorem agreed_evalNarrow (hE : E.Overlooks same) (s : Session σ) (text : String) (engine : σ)
    (h : c.Alike same c') :
    Agreed (Agreed same) (s.evalNarrow E text engine c) (s.evalNarrow E text engine c') := by
  unfold Session.evalNarrow
  refine Agreed.elim_state (hE.parseText (E.assignment engine resultVariable text) {} engine c c' h)
    fun answer engine c c' h => ?_
  cases answer with
  | error e =>
    dsimp only
    refine Agreed.elim (h.surface e) fun _ _ _ h => ?_
    exact agreed_update s engine _ h
  | ok _ =>
    dsimp only
    refine Agreed.elim_state (hE.globalDispatch engine c c' h) fun answer engine c c' h => ?_
    cases answer with
    | error e => exact agreed_fail s e engine h
    | ok d =>
      dsimp only
      refine Agreed.elim_state (hE.getProperty d resultVariable engine c c' h)
        fun answer engine c c' h => ?_
      cases answer with
      | error e =>
        dsimp only
        refine Agreed.elim (h.surface e) fun error c c' h => ?_
        exact agreed_release hE s d engine _ h
      | ok v => exact agreed_release hE s d engine _ h

theorem agreed_eval (hE : E.Overlooks same) (s : Session σ) (text : String)
    (h : same host host') : Agreed (Agreed same) (s.eval E text host) (s.eval E text host') := by
  refine agreed_connect hE s (fun engine c c' h => ?_) h
  cases s.variant with
  | wide => exact agreed_evalWide hE s text engine h
  | narrow => exact agreed_evalNarrow hE s text engine h

theorem agreed_parseModule (hE : E.Overlooks same) (s : Session σ) (text : String)
    (h : same host host') :
    Agreed (Agreed same) (s.parseModule E text host) (s.parseModule E text host') := by
  refine agreed_connect hE s (fun engine c c' h => ?_) h
  refine Agreed.elim_state (hE.parseText text { persistent := true } engine c c' h)
    fun answer engine c c' h => ?_
  cases answer with
  | error e => exact agreed_fail s e engine h
  | ok _ =>
    dsimp only
    refine Agreed.elim_state (hE.globalDispatch engine c c' h) fun answer engine c c' h => ?_
    cases answer with
    | error e => exact agreed_fail s e engine h
    | ok d => exact agreed_update s engine _ h

theorem agreed_setNamedItems (hE : E.Overlooks same) (items : List (String × Value))
    (s : Session σ) (h : same host host') :
    Agreed (Agreed same) (s.setNamedItems E host items) (s.setNamedItems E host' items) := by
  induction items generalizing s host host' with
  | nil => exact .mk (.mk h)
  | cons item rest ih =>
    obtain ⟨name, v⟩ := item
    rw [Session.setNamedItems, Session.setNamedItems]
    refine Agreed.elim_state (agreed_setNamedItem hE s name v h) fun answer s host host' h => ?_
    cases answer with
    | error e => exact .mk (.mk h)
    | ok _ => exact ih s h

theorem agreed_start {registry : Registry σ} (hE : E.Overlooks same)
    (hregistry : registry.Overlooks same) (language : String) (variant : Variant)
    (h : same host host') :
    Agreed same (Session.start E registry language variant host)
      (Session.start E registry language variant host') := by
  unfold Session.start
  by_cases hempty : language.isEmpty
  · simp only [if_pos hempty]
    exact .mk h
  simp only [if_neg hempty]
  cases hlookup : registry.lookup language with
  | none => exact .mk h
  | some factory =>
    dsimp only
    refine Agreed.elim (hregistry language factory hlookup host host' h) fun answer host host' h => ?_
    cases answer with
    | error e => exact .mk h
    | ok engine =>
      dsimp only
      by_cases hcapable : (E.capabilities engine).missing ≠ .none
      · simp only [if_pos hcapable]
        exact .mk (hE.close engine ⟨none, host⟩ ⟨none, host'⟩ (.mk h)).rest.host
      · simp only [if_neg hcapable]
        have hset := hE.setSite engine ⟨some {}, host⟩ ⟨some {}, host'⟩ (.mk h)
        rw [hset.answer]
        refine Agreed.elim_state (hE.initNew _ _ _ hset.rest) fun answer engine c c' h => ?_
        cases answer with
        | error e =>
          dsimp only
          exact .mk (hE.close engine c c' h).rest.host
        | ok _ =>
          cases h with
          | mk h => exact .mk h

end Session

theorem agreed_evalOnce {registry : Registry σ} (hE : E.Overlooks same)
    (hregistry : registry.Overlooks same) (language text : String)
    (items : List (String × Value)) (variant : Variant) (h : same host host') :
    Agreed same (evalOnce E registry language text items variant host)
      (evalOnce E registry language text items variant host') := by
  have hend {s : Session σ} {host host' : Host} (value : Except HostError Value)
      (h : same host host') :
      Agreed same (value, (s.close E host).2) (value, (s.close E host').2) := by
    exact .mk (s.agreed_close hE h).rest
  unfold evalOnce
  refine Agreed.elim (Session.agreed_start hE hregistry language variant h)
    fun answer host host' h => ?_
  cases answer with
  | error e => exact .mk h
  | ok s =>
    dsimp only
    refine Agreed.elim_state (Session.agreed_setNamedItems hE items s h) fun answer s host host' h => ?_
    cases answer with
    | error e => exact hend _ h
    | ok _ =>
      dsimp only
      refine Agreed.elim_state (s.agreed_eval hE text h) fun value s host host' h => ?_
      exact hend value h

/-! ## Handles -/

theorem Handle.agreed_use (handle : Handle δ) (s : Session σ) (what name : String)
    {call : δ → Action σ Value} (hcall : ∀ d, Action.Overlooks same (call d))
    (h : same host host') :
    Agreed (Agreed same) (handle.use what s name host call)
      (handle.use what s name host' call) := by
  unfold Handle.use
  cases handle.dispatch with
  | none => exact .mk (.mk h)
  | some d =>
    dsimp only
    by_cases hname : name.isEmpty
    · simp only [if_pos hname]
      exact .mk (.mk h)
    simp only [if_neg hname]
    cases s.engine with
    | none => exact .mk (.mk h)
    | some engine =>
      cases s.site with
      | none => exact .mk (.mk h)
      | some site =>
        dsimp only
        refine Agreed.elim_state (hcall d engine ⟨some site.clear, host⟩ ⟨some site.clear, host'⟩
          (.mk h)) fun answer engine c c' h => ?_
        cases answer with
        | error e => exact Session.agreed_fail s e engine h
        | ok v => exact Session.agreed_update s engine _ h

theorem Handle.agreed_close (hE : E.Overlooks same) (handle : Handle δ) (h : same host host') :
    Agreed same (handle.close E host) (handle.close E host') := by
  unfold Handle.close
  cases handle.dispatch with
  | none => exact .mk h
  | some d =>
    exact .mk (hE.release d ⟨none, host⟩ ⟨none, host'⟩ (.mk h)).rest.host

/-! ## Records -/

/-- Hosts that differ in nothing but what is on record. -/
structure Host.SameButRecord (host host' : Host) : Prop where
  functions : host.functions = host'.functions
  replies : host.replies = host'.replies

theorem Host.SameButRecord.refl (host : Host) : host.SameButRecord host := ⟨rfl, rfl⟩

theorem Host.sameButRecord_record (host : Host) (e : Event) :
    host.SameButRecord (host.record e) := ⟨rfl, rfl⟩

namespace Engine.Rehearsed

open Context (Alike)

theorem alike_record (h : c.Alike Host.SameButRecord c') (e : Event) :
    (c.record e).Alike Host.SameButRecord (c'.record e) := by
  cases h with
  | mk h => exact .mk ⟨h.functions, h.replies⟩

theorem alike_notify (h : c.Alike Host.SameButRecord c') (n : Notification) :
    (c.notify n).Alike Host.SameButRecord (c'.notify n) := by
  cases n with
  | error r => exact h.tell _
  | enter => exact h.tell _
  | leave => exact h
  | terminate => exact h
  | item name =>
    cases h with
    | @mk site host host' h =>
      cases site with
      | none => exact .mk h
      | some site => exact alike_record (.mk h) _

theorem alike_perform (h : c.Alike Host.SameButRecord c') (r : Reply) :
    (perform c r).Alike Host.SameButRecord (perform c' r) := by
  unfold perform
  induction r.notifications generalizing c c' with
  | nil => exact h
  | cons n rest ih => exact ih (alike_notify h n)

theorem agreed_answer (h : c.Alike Host.SameButRecord c') (event : Event)
    (queue : Replies → List Reply) (store : Replies → List Reply → Replies) :
    Agreed (Alike Host.SameButRecord) (answer event queue store c) (answer event queue store c') := by
  cases h with
  | @mk site host host' h =>
    unfold answer
    simp only [Context.record, Host.record, h.replies]
    refine .mk (alike_perform (.mk ?_) _)
    exact ⟨h.functions, rfl⟩

theorem overlooks_act (event : Event) (queue : Replies → List Reply)
    (store : Replies → List Reply → Replies) (result : Value → α) (keep : EngineState → EngineState) :
    Action.Overlooks Host.SameButRecord (act event queue store result keep) := by
  intro s c c' h
  unfold act
  refine Agreed.elim (agreed_answer h event queue store) fun answer c c' h => ?_
  cases answer with
  | error e => exact .mk (.mk h)
  | ok v => exact .mk (.mk h)

/-- What a call of a rehearsed engine puts on record may tell of the mailbox. -/
theorem overlooks_act_held (event : Bool → Event) (queue : Replies → List Reply)
    (store : Replies → List Reply → Replies) :
    Action.Overlooks Host.SameButRecord fun s c =>
      act (event c.faultHeld) queue store (id : Value → Value) id s c := by
  intro s c c' h
  have hheld : c.faultHeld = c'.faultHeld := by
    cases h with
    | mk h => rfl
  simp only [hheld]
  exact overlooks_act (event c'.faultHeld) queue store id id s c c' h

/-- A rehearsed engine answers as it was told to, whatever is on record. -/
theorem overlooks_record (capabilities : Capabilities) :
    (engine capabilities).Overlooks Host.SameButRecord where
  setSite s c c' h := .mk (alike_record h .setSite)
  initNew := overlooks_act _ _ _ _ _
  setState target := overlooks_act _ _ _ _ _
  addNamedItem name := overlooks_act _ _ _ _ _
  parseText text flags := overlooks_act_held (.parseText text flags) _ _
  globalDispatch := overlooks_act _ _ _ _ _
  close s c c' h := by
    cases h with
    | mk h => exact .mk (.mk ⟨h.functions, h.replies⟩)
  getProperty d name := overlooks_act_held (.getProperty name) _ _
  invokeMethod d name args := overlooks_act_held (.invokeMethod name args) _ _
  release d c c' h := .mk (alike_record h .release)

theorem agreed_factory {host host' : Host} (h : host.SameButRecord host') :
    Agreed Host.SameButRecord (factory host) (factory host') := by
  unfold factory
  refine Agreed.elim (agreed_answer (.mk h : Alike Host.SameButRecord ⟨none, host⟩ ⟨none, host'⟩)
    .factory Replies.factory fun rs q => { rs with factory := q }) fun answer c c' h => ?_
  cases answer with
  | error e => exact .mk h.host
  | ok v => exact .mk h.host

end Engine.Rehearsed

end ScriptHost
