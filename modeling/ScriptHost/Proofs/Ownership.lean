import ScriptHost.Proofs.Ledger
import ScriptHost.Proofs.World

/-!
# Who holds an engine or a dispatch

Engines and dispatches have to be given up, and only once.  This file runs any history of operations
on engines under audit, which enter every call in the ledger of the host, and proves that at every
moment an engine is either held by one session or closed, and a dispatch either held by one handle or
released.

* `World.engines`, `World.dispatches` — what the sessions and the handles of a world hold.
* `Session.Visit` — what every operation of an open session does to engine and ledger.
* `World.Accounted` — the invariant: the ledger is in order, and balanced by what is held.
* `World.Passes` — what an operation changes about who holds what.
* `World.released_exactly_once` — **the result**, for every engine, registry, host and history.
-/

namespace ScriptHost

open LedgerEntry

variable {σ δ : Type}

/-- The number of the engine that a session holds. -/
def Session.number? (s : Session (Numbered σ)) : Option Nat := s.engine.map Numbered.number

/-- The number of the dispatch that a handle holds. -/
def Handle.number? (h : Handle (Issued δ)) : Option Nat := h.dispatch.map Issued.number

/-- The engines that the sessions of a world hold. -/
def World.engines (w : World (Numbered σ) (Issued δ)) : List (Option Nat) :=
  w.sessions.map Session.number?

/-- The dispatches that the handles of a world hold. -/
def World.dispatches (w : World (Numbered σ) (Issued δ)) : List (Option Nat) :=
  w.handles.map (Handle.number? ·.2)

/-! ## Turns of an engine -/

/-- An engine in the course of an operation: since its beginning only visits were entered. -/
structure Turn (i : Nat) (host : Host) (engine : Numbered σ) (c : Context) : Prop where
  number : engine.number = i
  ledger : Visited (some i) host.ledger c.host.ledger

/-- What an operation of a session does: it visits the engine, which the session goes on holding. -/
structure Session.Visit (s s' : Session (Numbered σ)) (host host' : Host) : Prop where
  number : s'.number? = s.number?
  ledger : Visited s.number? host.ledger host'.ledger

namespace Turn

variable {i : Nat} {host : Host} {engine : Numbered σ} {c : Context} {E : Engine σ δ}

theorem begins (engine : Numbered σ) (c : Context) : Turn engine.number c.host engine c :=
  ⟨rfl, .rest⟩

theorem tell (h : Turn i host engine c) (f : Site → Site) : Turn i host engine (c.tell f) :=
  ⟨h.number, h.ledger⟩

/-- Most actions enter one call. -/
theorem act {α : Type} (h : Turn i host engine c) (action : Action σ α) :
    Turn i host (Audited.act (fun i => [.called i]) action engine c).2.1
      (Audited.act (fun i => [.called i]) action engine c).2.2 := by
  refine ⟨h.number, ?_⟩
  have hcall := Visited.call rfl h.ledger
  rw [← h.number] at hcall ⊢
  exact hcall

theorem initNew (h : Turn i host engine c) : Turn i host
    ((Audited.engine E).initNew engine c).2.1 ((Audited.engine E).initNew engine c).2.2 :=
  h.act E.initNew

theorem setState (h : Turn i host engine c) (state : EngineState) : Turn i host
    ((Audited.engine E).setState state engine c).2.1
    ((Audited.engine E).setState state engine c).2.2 :=
  h.act (E.setState state)

theorem addNamedItem (h : Turn i host engine c) (name : String) : Turn i host
    ((Audited.engine E).addNamedItem name engine c).2.1
    ((Audited.engine E).addNamedItem name engine c).2.2 :=
  h.act (E.addNamedItem name)

theorem parseText (h : Turn i host engine c) (text : String) (flags : ParseFlags) : Turn i host
    ((Audited.engine E).parseText text flags engine c).2.1
    ((Audited.engine E).parseText text flags engine c).2.2 :=
  h.act (E.parseText text flags)

/-- A dispatch that someone holds is used. -/
theorem use {α : Type} {d : Issued δ} (h : Turn i host engine c) (action : Action σ α)
    (hengine : d.engine = i) (hhanded : .handedOut d.engine d.number ∈ c.host.ledger)
    (hreleased : .released d.number ∉ c.host.ledger) :
    Turn i host (Audited.act (fun _ => [.used d.engine d.number]) action engine c).2.1
      (Audited.act (fun _ => [.used d.engine d.number]) action engine c).2.2 := by
  subst hengine
  exact ⟨h.number, Visited.use rfl hhanded hreleased h.ledger⟩

/-- The global dispatch: either a call that failed, or a new dispatch on record. -/
theorem globalDispatch (h : Turn i host engine c) :
    match (Audited.engine E).globalDispatch engine c with
    | (.error _, engine, c) => Turn i host engine c
    | (.ok d, engine, c) => engine.number = i ∧ d.engine = i ∧
      ∃ l, Visited (some i) host.ledger l ∧ d.number = nextDispatch l ∧
        c.host.ledger = l ++ [.handedOut i (nextDispatch l)] := by
  obtain ⟨rfl, hvisited⟩ := h
  have hcall := Visited.call rfl hvisited
  simp only [Audited.engine]
  rcases E.globalDispatch engine.state c with ⟨_ | d, state, c'⟩
  · exact ⟨rfl, hcall⟩
  · have hnext : nextDispatch (c.host.ledger ++ [.called engine.number])
        = nextDispatch c.host.ledger := by
      simp [nextDispatch]
    refine ⟨rfl, rfl, _, hcall, hnext.symm, ?_⟩
    rw [hnext]
    simp [Context.enter, Host.enter]

end Turn

theorem Context.surface_host (c : Context) (e : NativeError) : (c.surface e).2.host = c.host := by
  unfold Context.surface
  split <;> rfl

theorem Audited.getProperty_enters {E : Engine σ δ} (d : Issued δ) (name : String)
    (engine : Numbered σ) (c : Context) :
    ((Audited.engine E).getProperty d name engine c).2.1.number = engine.number ∧
      ((Audited.engine E).getProperty d name engine c).2.2.host.ledger
        = c.host.ledger ++ [.used d.engine d.number] :=
  ⟨rfl, rfl⟩

theorem Audited.release_enters {E : Engine σ δ} (d : Issued δ) (c : Context) :
    ((Audited.engine E).release d c).2.host.ledger = c.host.ledger ++ [.released d.number] := rfl

theorem Audited.close_enters {E : Engine σ δ} (engine : Numbered σ) (c : Context) :
    ((Audited.engine E).close engine c).2.host.ledger
      = c.host.ledger ++ [.closed engine.number] := rfl

/-! ## Operations of sessions and handles -/

namespace Session

variable {E : Engine σ δ} {s : Session (Numbered σ)} {host : Host} {i : Nat}

theorem Visit.same : Visit s s host host := ⟨rfl, .rest⟩

theorem Visit.trans {s' s'' : Session (Numbered σ)} {host' host'' : Host}
    (h : Visit s s' host host') (h' : Visit s' s'' host' host'') : Visit s s'' host host'' :=
  ⟨h'.number.trans h.number, h.ledger.trans (h.number ▸ h'.ledger)⟩

theorem Visit.update {engine : Numbered σ} {c : Context} (hs : s.number? = some i)
    (h : Turn i host engine c) : Visit s (s.update engine c) host c.host := by
  refine ⟨?_, hs ▸ h.ledger⟩
  rw [hs, ← h.number]
  rfl

theorem Visit.fail {α : Type} {engine : Numbered σ} {c : Context} (hs : s.number? = some i)
    (h : Turn i host engine c) (e : NativeError) :
    Visit s (s.fail (α := α) e engine c).2.1 host (s.fail (α := α) e engine c).2.2 := by
  have hturn : Turn i host engine (c.surface e).2 :=
    ⟨h.number, (c.surface_host e).symm ▸ h.ledger⟩
  exact Visit.update hs hturn

theorem visit_setNamedItem (E : Engine σ δ) (s : Session (Numbered σ)) (host : Host)
    (name : String) (v : Value) :
    Visit s (s.setNamedItem (Audited.engine E) name v host).2.1 host
      (s.setNamedItem (Audited.engine E) name v host).2.2 := by
  unfold Session.setNamedItem
  split
  · exact .same
  · cases hengine : s.engine with
    | none => exact .same
    | some engine =>
        cases s.site with
        | none => exact .same
        | some site =>
            have hs : s.number? = some engine.number := by rw [number?, hengine]; rfl
            have hturn := (Turn.begins engine ⟨some (site.insert name v), host⟩).addNamedItem
              (E := E) name
            rcases hcall : (Audited.engine E).addNamedItem name engine
              ⟨some (site.insert name v), host⟩ with ⟨e | _, engine', c⟩
            · simp only [hcall] at hturn ⊢
              exact .update hs hturn
            · simp only [hcall] at hturn ⊢
              exact .update hs hturn

/-- To connect fails with a visit, or goes on in a turn of the engine. -/
theorem connect_cases {α : Type} {use : Numbered σ → Context →
      Except HostError α × Session (Numbered σ) × Host}
    {P : Except HostError α × Session (Numbered σ) × Host → Prop}
    (hfail : ∀ e s' host', Visit s s' host host' → P (.error e, s', host'))
    (huse : ∀ i engine c, s.number? = some i → Turn i host engine c → P (use engine c)) :
    P (s.connect (Audited.engine E) host use) := by
  unfold Session.connect
  cases hengine : s.engine with
  | none => exact hfail _ _ _ .same
  | some engine =>
      cases s.site with
      | none => exact hfail _ _ _ .same
      | some site =>
          have hs : s.number? = some engine.number := by rw [number?, hengine]; rfl
          have hturn := (Turn.begins engine ⟨some site, host⟩).setState (E := E) .connected
          rcases hcall : (Audited.engine E).setState .connected engine ⟨some site, host⟩
            with ⟨e | _, engine', c⟩
          · simp only [hcall] at hturn ⊢
            exact hfail _ _ _ (.update hs hturn)
          · simp only [hcall] at hturn ⊢
            exact huse _ _ _ hs (hturn.tell Site.clear)

theorem visit_evalWide {engine : Numbered σ} {c : Context} (hs : s.number? = some i)
    (h : Turn i host engine c) (text : String) :
    Visit s (s.evalWide (Audited.engine E) text engine c).2.1 host
      (s.evalWide (Audited.engine E) text engine c).2.2 := by
  have hturn := h.parseText (E := E) text { expression := true }
  unfold Session.evalWide
  rcases hcall : (Audited.engine E).parseText _ _ _ _ with ⟨e | v, engine', c'⟩
  · simp only [hcall] at hturn ⊢
    exact .fail hs hturn e
  · simp only [hcall] at hturn ⊢
    exact .update hs hturn

/-- The dispatch that an evaluation takes is released before it returns, whatever reading came to. -/
theorem visit_evalNarrow {engine : Numbered σ} {c : Context} (hs : s.number? = some i)
    (h : Turn i host engine c) (text : String) :
    Visit s (s.evalNarrow (Audited.engine E) text engine c).2.1 host
      (s.evalNarrow (Audited.engine E) text engine c).2.2 := by
  have hturn := h.parseText (E := E)
    ((Audited.engine E).assignment engine resultVariable text) {}
  unfold Session.evalNarrow
  rcases hcall : (Audited.engine E).parseText _ _ _ _ with ⟨e | v, engine', c'⟩
  · simp only [hcall] at hturn ⊢
    refine .update hs ⟨hturn.number, ?_⟩
    rw [Context.surface_host]
    exact hturn.ledger
  · simp only [hcall] at hturn ⊢
    have hglobal := hturn.globalDispatch (E := E)
    rcases hcall : (Audited.engine E).globalDispatch _ _ with ⟨e | d, engine'', c''⟩
    · simp only [hcall] at hglobal ⊢
      exact .fail hs hglobal e
    · simp only [hcall] at hglobal ⊢
      obtain ⟨hnumber, hengine, l, hvisited, hd, hledger⟩ := hglobal
      have hborrow := Visited.borrow rfl hvisited
      rw [← hledger] at hborrow
      obtain ⟨hkept, hused⟩ := Audited.getProperty_enters (E := E) d resultVariable engine'' c''
      rcases hcall : (Audited.engine E).getProperty d resultVariable engine'' c''
        with ⟨e | v, engine''', c⟩
      · simp only [hcall] at hkept hused ⊢
        refine .update hs ⟨hkept.trans hnumber, ?_⟩
        rw [Audited.release_enters, Context.surface_host, hused, hengine, hd]
        exact hborrow
      · simp only [hcall] at hkept hused ⊢
        refine .update hs ⟨hkept.trans hnumber, ?_⟩
        rw [Audited.release_enters, hused, hengine, hd]
        exact hborrow

theorem visit_eval (E : Engine σ δ) (s : Session (Numbered σ)) (host : Host) (text : String) :
    Visit s (s.eval (Audited.engine E) text host).2.1 host
      (s.eval (Audited.engine E) text host).2.2 := by
  refine connect_cases (P := fun r => Visit s r.2.1 host r.2.2) (fun _ _ _ h => h) ?_
  intro i engine c hs hturn
  cases s.variant with
  | wide => exact visit_evalWide hs hturn text
  | narrow => exact visit_evalNarrow hs hturn text

theorem visit_setNamedItems (E : Engine σ δ) (s : Session (Numbered σ)) (host : Host)
    (items : List (String × Value)) :
    Visit s (s.setNamedItems (Audited.engine E) host items).2.1 host
      (s.setNamedItems (Audited.engine E) host items).2.2 := by
  induction items generalizing s host with
  | nil => exact .same
  | cons item rest ih =>
      obtain ⟨name, v⟩ := item
      have hvisit := s.visit_setNamedItem E host name v
      rw [Session.setNamedItems]
      rcases hcall : s.setNamedItem (Audited.engine E) name v host with ⟨e | _, s', host'⟩
      · simp only [hcall] at hvisit ⊢
        exact hvisit
      · simp only [hcall] at hvisit ⊢
        exact hvisit.trans (ih s' host')

/-- What the parsing of a module comes to: a visit, or a handle that holds a new dispatch. -/
def Parsed (s : Session (Numbered σ)) (host : Host) :
    Except HostError (Handle (Issued δ)) × Session (Numbered σ) × Host → Prop
  | (.error _, s', host') => Visit s s' host host'
  | (.ok handle, s', host') => ∃ i d l, handle = ⟨some d⟩ ∧ s.number? = some i ∧
    s'.number? = s.number? ∧ Visited s.number? host.ledger l ∧ d.engine = i ∧
    d.number = nextDispatch l ∧ host'.ledger = l ++ [.handedOut i (nextDispatch l)]

theorem parsed_parseModule (E : Engine σ δ) (s : Session (Numbered σ)) (host : Host)
    (text : String) :
    s.Parsed host (s.parseModule (Audited.engine E) text host) := by
  refine connect_cases (P := s.Parsed host) (fun _ _ _ h => h) ?_
  intro i engine c hs hturn
  have hturn := hturn.parseText (E := E) text { persistent := true }
  rcases hcall : (Audited.engine E).parseText text { persistent := true } engine c
    with ⟨e | v, engine', c'⟩
  · simp only [hcall] at hturn ⊢
    exact Visit.fail (α := Handle (Issued δ)) hs hturn e
  · simp only [hcall] at hturn ⊢
    have hglobal := hturn.globalDispatch (E := E)
    rcases hcall : (Audited.engine E).globalDispatch engine' c' with ⟨e | d, engine'', c''⟩
    · simp only [hcall] at hglobal ⊢
      exact Visit.fail (α := Handle (Issued δ)) hs hglobal e
    · simp only [hcall] at hglobal ⊢
      obtain ⟨hnumber, hengine, l, hvisited, hd, hledger⟩ := hglobal
      refine ⟨i, d, l, rfl, hs, ?_, hs ▸ hvisited, hengine, hd, hledger⟩
      rw [hs, ← hnumber]
      rfl

/-- The end of a session: its engine, if it still holds one, is closed. -/
theorem close_enters (E : Engine σ δ) (s : Session (Numbered σ)) (host : Host) :
    (s.close (Audited.engine E) host).1.number? = none ∧
      (s.close (Audited.engine E) host).2.ledger
        = host.ledger ++ (s.number?.map LedgerEntry.closed).toList := by
  unfold Session.close number?
  cases s.engine with
  | none => simp
  | some engine => exact ⟨rfl, rfl⟩

end Session

theorem Registry.lookup_audited (registry : Registry σ) (language : String) :
    registry.audited.lookup language = (registry.lookup language).map Audited.factory := by
  unfold Registry.lookup Registry.audited
  induction registry.entries with
  | nil => rfl
  | cons entry rest ih =>
      obtain ⟨name, f⟩ := entry
      simp only [List.map_cons, List.lookup_cons, ih]
      split <;> rfl

/-- An engine was made, if any, and closed again. -/
def Host.Returned (host host' : Host) : Prop :=
  host'.ledger = host.ledger ∨
    ∃ l, Visited (some (nextEngine host.ledger)) (host.ledger ++ [.made (nextEngine host.ledger)]) l ∧
      host'.ledger = l ++ [.closed (nextEngine host.ledger)]

/-- What starting a session comes to: no engine is left, or the session holds a new one. -/
def Session.Started (host : Host) : Except HostError (Session (Numbered σ)) × Host → Prop
  | (.error _, host') => host.Returned host'
  | (.ok s, host') => s.number? = some (nextEngine host.ledger) ∧
    Visited s.number? (host.ledger ++ [.made (nextEngine host.ledger)]) host'.ledger

theorem Turn.setSite {i : Nat} {host : Host} {engine : Numbered σ} {c : Context} {E : Engine σ δ}
    (h : Turn i host engine c) : Turn i host
      ((Audited.engine E).setSite engine c).1 ((Audited.engine E).setSite engine c).2 := by
  obtain ⟨rfl, hvisited⟩ := h
  exact ⟨rfl, .call rfl hvisited⟩

theorem Session.started_start {E : Engine σ δ} (registry : Registry σ) (language : String)
    (variant : Variant) (host : Host) :
    Started host (Session.start (Audited.engine E) registry.audited language variant host) := by
  unfold Session.start
  split
  · exact .inl rfl
  rw [registry.lookup_audited]
  cases registry.lookup language with
  | none => exact .inl rfl
  | some factory =>
      simp only [Option.map_some, Audited.factory]
      rcases factory host with ⟨e | state, host'⟩
      · exact .inl (List.append_nil _)
      simp only
      generalize hmade : host'.enter host.ledger [.made (nextEngine host.ledger)] = begun
      have hledger : begun.ledger = host.ledger ++ [.made (nextEngine host.ledger)] := by
        rw [← hmade]; rfl
      generalize hnew : (⟨nextEngine host.ledger, state⟩ : Numbered σ) = engine
      have hnumber : engine.number = nextEngine host.ledger := by rw [← hnew]
      have hturn := (Turn.begins engine ⟨some {}, begun⟩).setSite (E := E)
      rw [hnumber] at hturn
      have hinit := hturn.initNew (E := E)
      split
      · -- it lacks a capability
        refine .inr ⟨_, .rest, ?_⟩
        rw [Audited.close_enters, hnumber, hledger]
      rcases hcall : (Audited.engine E).setSite engine ⟨some {}, begun⟩ with ⟨engine', c⟩
      simp only [hcall] at hinit ⊢
      rcases hcall : (Audited.engine E).initNew engine' c with ⟨e | _, engine'', c'⟩
      · simp only [hcall] at hinit ⊢
        refine .inr ⟨_, hledger ▸ hinit.ledger, ?_⟩
        rw [Audited.close_enters, hinit.number]
      · simp only [hcall] at hinit ⊢
        have hs : (⟨language, some engine'', c'.site, variant⟩ : Session (Numbered σ)).number?
            = some (nextEngine host.ledger) := by
          rw [← hinit.number]; rfl
        exact ⟨hs, hs ▸ hledger ▸ hinit.ledger⟩

/-- What began with a new engine and closes its session leaves nothing. -/
theorem Host.returned_close {E : Engine σ δ} {host host' host'' : Host} {s s' : Session (Numbered σ)}
    (hs : s.number? = some (nextEngine host.ledger))
    (hbegun : Visited s.number? (host.ledger ++ [.made (nextEngine host.ledger)]) host'.ledger)
    (hvisit : s.Visit s' host' host'') :
    host.Returned (s'.close (Audited.engine E) host'').2 := by
  refine .inr ⟨host''.ledger, ?_, ?_⟩
  · rw [← hs]
    exact hbegun.trans hvisit.ledger
  · rw [(s'.close_enters E host'').2, hvisit.number, hs]
    rfl

/-- Whoever holds something still holds it after an engine was made and closed. -/
theorem Balanced.returned {host host' : Host} {engines dispatches : List (Option Nat)}
    (h : Balanced host.ledger engines dispatches) (hr : host.Returned host') :
    host.ledger <+: host'.ledger ∧ Balanced host'.ledger engines dispatches := by
  rcases hr with hledger | ⟨l, hv, hledger⟩
  · rw [hledger]
    exact ⟨List.prefix_rfl, h⟩
  · rw [hledger]
    exact ⟨((List.prefix_append _ _).trans hv.isPrefix).trans (List.prefix_append _ _), h.visitor hv⟩

theorem returned_evalOnce {E : Engine σ δ} (registry : Registry σ) (language text : String)
    (items : List (String × Value)) (variant : Variant) (host : Host) :
    host.Returned
      (evalOnce (Audited.engine E) registry.audited language text items variant host).2 := by
  have hstart := Session.started_start (E := E) registry language variant host
  unfold evalOnce
  rcases hcall : Session.start (Audited.engine E) registry.audited language variant host
    with ⟨e | s, host'⟩
  · rw [hcall] at hstart
    exact hstart
  rw [hcall] at hstart
  obtain ⟨hs, hvisited⟩ := hstart
  -- whatever becomes of the items and of the text, what is left is to close the session
  have hclose : ∀ s' host'', s.Visit s' host' host'' →
      host.Returned (s'.close (Audited.engine E) host'').2 :=
    fun _ _ => Host.returned_close hs hvisited
  have hitems := s.visit_setNamedItems E host' items
  simp only
  rcases hcall : s.setNamedItems (Audited.engine E) host' items with ⟨e | _, s', host''⟩
  · simp only [hcall] at hitems ⊢
    exact hclose _ _ hitems
  · simp only [hcall] at hitems ⊢
    exact hclose _ _ (hitems.trans (s'.visit_eval E host'' text))

/-- A handle uses its dispatch in a turn of the engine that handed it out. -/
theorem Handle.visit_use {s : Session (Numbered σ)} {host : Host} {handle : Handle (Issued δ)}
    (what name : String) (action : δ → Action σ Value)
    (hd : ∀ d, handle.dispatch = some d → .handedOut d.engine d.number ∈ host.ledger ∧
      .released d.number ∉ host.ledger ∧ ∀ i, s.number? = some i → d.engine = i) :
    s.Visit (handle.use what s name host fun d =>
        Audited.act (fun _ => [.used d.engine d.number]) (action d.dispatch)).2.1 host
      (handle.use what s name host fun d =>
        Audited.act (fun _ => [.used d.engine d.number]) (action d.dispatch)).2.2 := by
  unfold Handle.use
  cases hdispatch : handle.dispatch with
  | none => exact .same
  | some d =>
      simp only
      split
      · exact .same
      cases hengine : s.engine with
      | none => exact .same
      | some engine =>
          cases s.site with
          | none => exact .same
          | some site =>
              have hs : s.number? = some engine.number := by rw [Session.number?, hengine]; rfl
              obtain ⟨hhanded, hreleased, hfrom⟩ := hd d hdispatch
              have hturn := (Turn.begins engine ⟨some site.clear, host⟩).use (action d.dispatch)
                (hfrom _ hs) hhanded hreleased
              simp only
              rcases hcall : Audited.act (fun _ => [.used d.engine d.number]) (action d.dispatch)
                engine ⟨some site.clear, host⟩ with ⟨e | v, engine', c⟩
              · simp only [hcall] at hturn ⊢
                exact .fail hs hturn e
              · simp only [hcall] at hturn ⊢
                exact .update hs hturn

/-- The end of a handle: its dispatch, if it still holds one, is released. -/
theorem Handle.close_enters (E : Engine σ δ) (handle : Handle (Issued δ)) (host : Host) :
    (handle.close (Audited.engine E) host).1.number? = none ∧
      (handle.close (Audited.engine E) host).2.ledger
        = host.ledger ++ (handle.number?.map LedgerEntry.released).toList := by
  unfold Handle.close Handle.number?
  cases hdispatch : handle.dispatch with
  | none => simp [hdispatch]
  | some d => exact ⟨rfl, rfl⟩

/-! ## Worlds -/

namespace World

variable {E : Engine σ δ} {registry : Registry σ} {w : World (Numbered σ) (Issued δ)}

/-- What is held accounts for the ledger, and the dispatch of a handle was handed out by the engine
of its session. -/
structure Accounted (w : World (Numbered σ) (Issued δ)) : Prop where
  balanced : Balanced w.host.ledger w.engines w.dispatches
  origin : ∀ k d, (k, ⟨some d⟩) ∈ w.handles → .handedOut d.engine d.number ∈ w.host.ledger ∧
    ∃ i, w.engines[k]? = some i ∧ (i = none ∨ i = some d.engine)

theorem accounted_fresh (host : Host) : (fresh host : World (Numbered σ) (Issued δ)).Accounted where
  balanced := .nil
  origin := by
    intro k d h
    simp [fresh] at h

/-- How an operation changes who holds what.  A started session brings an engine and a parsed module a
dispatch; only to close it takes an engine from a session, or a dispatch from a handle. -/
def Passes (w : World (Numbered σ) (Issued δ)) (op : Operation)
    (result : Outcome × World (Numbered σ) (Issued δ)) : Prop :=
  match op with
  | .start _ _ => result.2.dispatches = w.dispatches ∧
    match result.1 with
    | .error _ => result.2.engines = w.engines
    | .ok _ => ∃ i, result.2.engines = w.engines ++ [some i]
  | .parseModule k _ => result.2.engines = w.engines ∧
    match result.1, w.sessions[k]? with
    | .ok _, some _ => ∃ d, result.2.dispatches = w.dispatches ++ [some d]
    | _, _ => result.2.dispatches = w.dispatches
  | .closeSession k =>
    result.2.engines = w.engines.set k none ∧ result.2.dispatches = w.dispatches
  | .closeHandle h =>
    result.2.engines = w.engines ∧ result.2.dispatches = w.dispatches.set h none
  | _ => result.2.engines = w.engines ∧ result.2.dispatches = w.dispatches

/-- What is proved of every operation. -/
structure Sound (w : World (Numbered σ) (Issued δ)) (op : Operation)
    (result : Outcome × World (Numbered σ) (Issued δ)) : Prop where
  accounted : result.2.Accounted
  grows : w.host.ledger <+: result.2.host.ledger
  passes : w.Passes op result

theorem engines_getElem? {k : Nat} {s : Session (Numbered σ)} (hs : w.sessions[k]? = some s) :
    w.engines[k]? = some s.number? := by
  rw [engines, List.getElem?_map, hs]
  rfl

theorem dispatches_getElem? {n k : Nat} {handle : Handle (Issued δ)}
    (hh : w.handles[n]? = some (k, handle)) : w.dispatches[n]? = some handle.number? := by
  rw [dispatches, List.getElem?_map, hh]
  rfl

theorem engines_concat (s : Session (Numbered σ)) (host : Host) :
    ({ w with sessions := w.sessions ++ [s], host } : World (Numbered σ) (Issued δ)).engines
      = w.engines ++ [s.number?] := by
  simp [engines]

theorem dispatches_concat (k : Nat) (handle : Handle (Issued δ)) :
    ({ w with handles := w.handles ++ [(k, handle)] } : World (Numbered σ) (Issued δ)).dispatches
      = w.dispatches ++ [handle.number?] := by
  simp [dispatches]

theorem engines_withSession {k : Nat} {s s' : Session (Numbered σ)} (host : Host)
    (hs : w.sessions[k]? = some s) (h : s'.number? = s.number?) :
    (w.withSession k s' host).engines = w.engines := by
  rw [engines, withSession, List.map_set, h]
  exact set_of_getElem? (engines_getElem? hs)

/-- A visit changes nothing about who holds what. -/
theorem Accounted.visit {k : Nat} {s s' : Session (Numbered σ)} {host : Host} (h : w.Accounted)
    (hs : w.sessions[k]? = some s) (hv : s.Visit s' w.host host) :
    (w.withSession k s' host).Accounted := by
  have hengines := engines_withSession host hs hv.number
  constructor
  · rw [hengines]
    refine h.balanced.visited (fun i hi => ?_) hv.ledger
    exact List.mem_of_getElem? ((engines_getElem? hs).trans (congrArg some hi))
  · intro k' d hd
    rw [hengines]
    obtain ⟨hhanded, hfrom⟩ := h.origin k' d hd
    exact ⟨hv.ledger.isPrefix.subset hhanded, hfrom⟩

/-- A session hands its new dispatch to a handle. -/
theorem Accounted.handedOut {k : Nat} {d : Issued δ} {host : Host} (h : w.Accounted)
    (hk : w.engines[k]? = some (some d.engine)) (hd : d.number = nextDispatch w.host.ledger)
    (hledger : host.ledger = w.host.ledger ++ [.handedOut d.engine d.number]) :
    ({ w with handles := w.handles ++ [(k, ⟨some d⟩)], host } :
      World (Numbered σ) (Issued δ)).Accounted := by
  constructor
  · have hbalanced := h.balanced.handedOut (List.mem_of_getElem? hk)
    rw [← hd, ← hledger] at hbalanced
    have hdispatches := w.dispatches_concat k ⟨some d⟩
    exact hdispatches ▸ hbalanced
  · intro k' d' hd'
    rw [hledger]
    rcases List.mem_append.1 hd' with hold | hnew
    · obtain ⟨hhanded, hfrom⟩ := h.origin k' d' hold
      exact ⟨List.mem_append_left _ hhanded, hfrom⟩
    · obtain ⟨rfl, rfl⟩ : k' = k ∧ d' = d := by simpa using hnew
      exact ⟨by simp, _, hk, .inr rfl⟩

/-- A handle gives up its dispatch, if it has one. -/
theorem Accounted.released {n k : Nat} {handle handle' : Handle (Issued δ)} {host : Host}
    (h : w.Accounted) (hn : w.handles[n]? = some (k, handle)) (hnone : handle'.number? = none)
    (hledger : host.ledger = w.host.ledger ++ (handle.number?.map LedgerEntry.released).toList) :
    ({ w with handles := w.handles.set n (k, handle'), host } :
      World (Numbered σ) (Issued δ)).Accounted := by
  have hdispatches : ({ w with handles := w.handles.set n (k, handle'), host } :
      World (Numbered σ) (Issued δ)).dispatches = w.dispatches.set n none := by
    simp only [dispatches, List.map_set, hnone]
  constructor
  · rw [hdispatches]
    have hheld := dispatches_getElem? hn
    cases hnumber : handle.number? with
    | none =>
        rw [hnumber, Option.map_none, Option.toList_none, List.append_nil] at hledger
        rw [hnumber] at hheld
        rw [set_of_getElem? hheld]
        exact hledger ▸ h.balanced
    | some d =>
        rw [hnumber] at hledger hheld
        exact hledger ▸ h.balanced.released hheld
  · intro k' d hd
    have hmem : (k', (⟨some d⟩ : Handle (Issued δ))) ∈ w.handles := by
      rcases List.mem_or_eq_of_mem_set hd with hmem | heq
      · exact hmem
      · obtain ⟨-, rfl⟩ := Prod.mk.inj heq
        simp [Handle.number?] at hnone
    obtain ⟨hhanded, hfrom⟩ := h.origin k' d hmem
    rw [hledger]
    exact ⟨List.mem_append_left _ hhanded, hfrom⟩

/-- A session gives up its engine, if it has one. -/
theorem Accounted.closed {k : Nat} {s s' : Session (Numbered σ)} {host : Host}
    (h : w.Accounted) (hs : w.sessions[k]? = some s) (hnone : s'.number? = none)
    (hledger : host.ledger = w.host.ledger ++ (s.number?.map LedgerEntry.closed).toList) :
    (w.withSession k s' host).Accounted ∧
      (w.withSession k s' host).engines = w.engines.set k none := by
  have hengines : (w.withSession k s' host).engines = w.engines.set k none := by
    rw [engines, withSession, List.map_set, hnone, engines]
  refine ⟨⟨?_, fun k' d hd => ?_⟩, hengines⟩
  · rw [hengines]
    have hheld := engines_getElem? hs
    cases hnumber : s.number? with
    | none =>
        rw [hnumber, Option.map_none, Option.toList_none, List.append_nil] at hledger
        rw [hnumber] at hheld
        rw [set_of_getElem? hheld]
        exact hledger ▸ h.balanced
    | some i =>
        rw [hnumber] at hledger hheld
        exact hledger ▸ h.balanced.closed hheld
  · obtain ⟨hhanded, i, hi, hfrom⟩ := h.origin k' d hd
    rw [hengines, List.getElem?_set]
    refine ⟨hledger ▸ List.mem_append_left _ hhanded, ?_⟩
    split
    · next heq =>
        obtain ⟨hlt, -⟩ := List.getElem?_eq_some_iff.1 hi
        rw [← heq] at hlt
        exact ⟨none, by rw [if_pos hlt], .inl rfl⟩
    · exact ⟨i, hi, hfrom⟩

/-- The host went on, and nobody holds anything else. -/
theorem Accounted.withHost {host : Host} (h : w.Accounted) (hgrows : w.host.ledger <+: host.ledger)
    (hbalanced : Balanced host.ledger w.engines w.dispatches) :
    ({ w with host } : World (Numbered σ) (Issued δ)).Accounted := by
  refine ⟨hbalanced, fun k d hd => ?_⟩
  obtain ⟨hhanded, hfrom⟩ := h.origin k d hd
  exact ⟨hgrows.subset hhanded, hfrom⟩

theorem Accounted.returned {host : Host} (h : w.Accounted) (hr : w.host.Returned host) :
    w.host.ledger <+: host.ledger ∧ ({ w with host } : World (Numbered σ) (Issued δ)).Accounted := by
  obtain ⟨hgrows, hbalanced⟩ := h.balanced.returned hr
  exact ⟨hgrows, h.withHost hgrows hbalanced⟩

/-- An operation that leaves with its owners whatever they hold. -/
structure Keeps (w w' : World (Numbered σ) (Issued δ)) : Prop where
  accounted : w'.Accounted
  grows : w.host.ledger <+: w'.host.ledger
  engines : w'.engines = w.engines
  dispatches : w'.dispatches = w.dispatches

theorem keeps_onSession {α : Type} {k : Nat} {value : α → Option Value}
    {call : Session (Numbered σ) → Host → Except HostError α × Session (Numbered σ) × Host}
    (h : w.Accounted) (hv : ∀ s, w.sessions[k]? = some s →
      s.Visit (call s w.host).2.1 w.host (call s w.host).2.2) :
    w.Keeps (w.onSession k call value).2 := by
  unfold onSession
  cases hs : w.sessions[k]? with
  | none => exact ⟨h, List.prefix_rfl, rfl, rfl⟩
  | some s =>
      have hvisit := hv s hs
      exact ⟨h.visit hs hvisit, hvisit.ledger.isPrefix, engines_withSession _ hs hvisit.number, rfl⟩

theorem keeps_onHandle {n : Nat} (h : w.Accounted) (what name : String)
    (action : δ → Action σ Value) :
    w.Keeps (w.onHandle n fun handle s host => handle.use what s name host fun d =>
      Audited.act (fun _ => [.used d.engine d.number]) (action d.dispatch)).2 := by
  unfold onHandle
  cases hh : w.handles[n]? with
  | none => exact ⟨h, List.prefix_rfl, rfl, rfl⟩
  | some pair =>
      obtain ⟨k, handle⟩ := pair
      refine keeps_onSession h fun s hs => Handle.visit_use what name action fun d hd => ?_
      have hmem : (k, ⟨some d⟩) ∈ w.handles := by
        rw [← hd]
        exact List.mem_of_getElem? hh
      have hheld : some d.number ∈ w.dispatches := by
        have hdispatch := dispatches_getElem? hh
        rw [Handle.number?, hd] at hdispatch
        exact List.mem_of_getElem? hdispatch
      obtain ⟨hhanded, i, hi, hfrom⟩ := h.origin k d hmem
      refine ⟨hhanded, h.balanced.released_notMem hheld, fun j hj => ?_⟩
      rw [engines_getElem? hs, hj, Option.some.injEq] at hi
      rcases hfrom with rfl | rfl
      · simp at hi
      · exact (Option.some.inj hi).symm

theorem sound_start (h : w.Accounted) (language : String) (variant : Variant) :
    w.Sound (.start language variant)
      (w.start (Audited.engine E) registry.audited language variant) := by
  have hstart := Session.started_start (E := E) registry language variant w.host
  unfold World.start
  rcases hcall : Session.start (Audited.engine E) registry.audited language variant w.host
    with ⟨e | s, host⟩
  · rw [hcall] at hstart
    obtain ⟨hgrows, haccounted⟩ := h.returned hstart
    exact ⟨haccounted, hgrows, rfl, rfl⟩
  · rw [hcall] at hstart
    obtain ⟨hs, hv⟩ := hstart
    have hgrows : w.host.ledger <+: host.ledger := (List.prefix_append _ _).trans hv.isPrefix
    have hengines := (w.engines_concat s host).trans (congrArg (w.engines ++ [·]) hs)
    refine ⟨⟨?_, fun k d hd => ?_⟩, hgrows, rfl, _, hengines⟩
    · rw [hengines]
      exact h.balanced.made.visited (by simp [hs]) hv
    · obtain ⟨hhanded, i, hi, hfrom⟩ := h.origin k d hd
      obtain ⟨hk, -⟩ := List.getElem?_eq_some_iff.1 hi
      refine ⟨hgrows.subset hhanded, i, ?_, hfrom⟩
      rw [hengines, List.getElem?_append_left hk, hi]

theorem sound_parseModule (h : w.Accounted) (k : Nat) (text : String) :
    w.Sound (.parseModule k text) (w.parseModule (Audited.engine E) k text) := by
  unfold World.parseModule
  cases hs : w.sessions[k]? with
  | none => exact ⟨h, List.prefix_rfl, by simp [Passes, hs]⟩
  | some s =>
      have hparsed := s.parsed_parseModule E w.host text
      simp only
      rcases hcall : s.parseModule (Audited.engine E) text w.host with ⟨e | handle, s', host⟩
      · rw [hcall] at hparsed
        have hvisit : s.Visit s' w.host host := hparsed
        exact ⟨h.visit hs hvisit, hvisit.ledger.isPrefix,
          engines_withSession _ hs hvisit.number, rfl⟩
      · rw [hcall] at hparsed
        obtain ⟨i, d, l, rfl, hi, hnumber, hv, hfrom, hd, hledger⟩ := hparsed
        have hvisit : s.Visit s' w.host { host with ledger := l } := ⟨hnumber, hv⟩
        have hengines := engines_withSession { host with ledger := l } hs hnumber
        have hheld : w.engines[k]? = some (some d.engine) := by
          rw [engines_getElem? hs, hi, hfrom]
        have hentered : host.ledger = l ++ [.handedOut d.engine d.number] := by
          rw [hledger, hfrom, hd]
        have haccounted := (h.visit hs hvisit).handedOut (hengines ▸ hheld) hd hentered
        have hgrows : w.host.ledger <+: host.ledger := by
          rw [hledger]
          exact hv.isPrefix.trans (List.prefix_append _ _)
        refine ⟨haccounted, hgrows, hengines, ?_⟩
        simp only [hs]
        exact ⟨_, w.dispatches_concat k ⟨some d⟩⟩

theorem sound_closeHandle (h : w.Accounted) (n : Nat) :
    w.Sound (.closeHandle n) (.ok none, w.closeHandle (Audited.engine E) n) := by
  unfold World.closeHandle
  cases hn : w.handles[n]? with
  | none =>
      have hlength : w.dispatches.length ≤ n := by
        rw [dispatches, List.length_map]
        exact List.getElem?_eq_none_iff.1 hn
      exact ⟨h, List.prefix_rfl, rfl, (List.set_eq_of_length_le hlength).symm⟩
  | some pair =>
      obtain ⟨k, handle⟩ := pair
      obtain ⟨hnone, hledger⟩ := handle.close_enters E w.host
      refine ⟨h.released hn hnone hledger, ?_, rfl, ?_⟩
      · exact hledger ▸ List.prefix_append _ _
      · simp only [dispatches, List.map_set, hnone]

theorem sound_closeSession (h : w.Accounted) (k : Nat) :
    w.Sound (.closeSession k) (.ok none, w.closeSession (Audited.engine E) k) := by
  unfold World.closeSession
  cases hs : w.sessions[k]? with
  | none =>
      have hlength : w.engines.length ≤ k := by
        rw [engines, List.length_map]
        exact List.getElem?_eq_none_iff.1 hs
      exact ⟨h, List.prefix_rfl, (List.set_eq_of_length_le hlength).symm, rfl⟩
  | some s =>
      obtain ⟨hnone, hledger⟩ := s.close_enters E w.host
      obtain ⟨haccounted, hengines⟩ := h.closed hs hnone hledger
      exact ⟨haccounted, hledger ▸ List.prefix_append _ _, hengines, rfl⟩

theorem Keeps.sound {op : Operation} {result : Outcome × World (Numbered σ) (Issued δ)}
    (h : w.Keeps result.2)
    (hop : w.Passes op result = (result.2.engines = w.engines ∧ result.2.dispatches = w.dispatches)) :
    w.Sound op result :=
  ⟨h.accounted, h.grows, hop.mpr ⟨h.engines, h.dispatches⟩⟩

/-- Every operation keeps the account. -/
theorem sound_perform (registry : Registry σ) (h : w.Accounted) (op : Operation) :
    w.Sound op (w.perform (Audited.engine E) registry.audited op) := by
  cases op with
  | start language variant => exact sound_start h language variant
  | setNamedItem k name v =>
      exact (keeps_onSession h fun s _ => s.visit_setNamedItem E w.host name v).sound rfl
  | eval k text => exact (keeps_onSession h fun s _ => s.visit_eval E w.host text).sound rfl
  | parseModule k text => exact sound_parseModule h k text
  | invoke n name args =>
      exact (keeps_onHandle h "method name" name (E.invokeMethod · name args)).sound rfl
  | get n name => exact (keeps_onHandle h "property name" name (E.getProperty · name)).sound rfl
  | closeHandle n => exact sound_closeHandle h n
  | closeSession k => exact sound_closeSession h k
  | evalOnce language text items variant =>
      obtain ⟨hgrows, haccounted⟩ :=
        h.returned (returned_evalOnce (E := E) registry language text items variant w.host)
      exact ⟨haccounted, hgrows, rfl, rfl⟩

/-- So does every history. -/
theorem accounted_run (h : w.Accounted) (history : List Operation) :
    (w.run (Audited.engine E) registry.audited history).Accounted := by
  induction history generalizing w with
  | nil => exact h
  | cons op history ih =>
      rw [run_cons]
      exact ih (sound_perform registry h op).accounted

/-! ## Exactly once -/

/-- An operation closes the session that holds an engine. -/
def Closes (w : World (Numbered σ) (Issued δ)) (op : Operation) (i : Nat) : Prop :=
  ∃ k, op = .closeSession k ∧ w.engines[k]? = some (some i)

/-- An operation closes the handle that holds a dispatch. -/
def Releases (w : World (Numbered σ) (Issued δ)) (op : Operation) (d : Nat) : Prop :=
  ∃ n, op = .closeHandle n ∧ w.dispatches[n]? = some (some d)

theorem count_le_set_none {xs : List (Option Nat)} {k a : Nat}
    (h : xs[k]? ≠ some (some a)) : xs.count (some a) ≤ (xs.set k none).count (some a) := by
  rcases hk : xs[k]? with _ | _ | b
  · exact Nat.le_of_eq (by rw [List.set_eq_of_length_le (List.getElem?_eq_none_iff.1 hk)])
  · exact Nat.le_of_eq (by rw [set_of_getElem? hk])
  · have hb : b ≠ a := by
      rintro rfl
      exact h hk
    have hcount := count_set_none hk a
    rw [if_neg hb] at hcount
    exact Nat.le_of_eq hcount

variable {op : Operation} {result : Outcome × World (Numbered σ) (Issued δ)}

/-- Only the closing of its session takes an engine from its owner. -/
theorem Passes.engines (h : w.Passes op result) (i : Nat) :
    (w.Closes op i → w.engines.count (some i) = result.2.engines.count (some i) + 1) ∧
      (¬w.Closes op i → w.engines.count (some i) ≤ result.2.engines.count (some i)) := by
  constructor
  · rintro ⟨k, rfl, hk⟩
    rw [h.1, count_set_none hk i, if_pos rfl]
  · intro hnot
    cases op with
    | start language variant =>
        obtain ⟨-, h⟩ := h
        split at h
        · exact Nat.le_of_eq (by rw [h])
        · obtain ⟨j, h⟩ := h
          rw [h, List.count_append]
          exact Nat.le_add_right _ _
    | closeSession k =>
        rw [h.1]
        exact count_le_set_none fun hk => hnot ⟨k, rfl, hk⟩
    | setNamedItem | eval | parseModule | invoke | get | closeHandle | evalOnce =>
        exact Nat.le_of_eq (by rw [h.1])

/-- Only the closing of its handle takes a dispatch from its owner. -/
theorem Passes.dispatches (h : w.Passes op result) (d : Nat) :
    (w.Releases op d → w.dispatches.count (some d) = result.2.dispatches.count (some d) + 1) ∧
      (¬w.Releases op d → w.dispatches.count (some d) ≤ result.2.dispatches.count (some d)) := by
  constructor
  · rintro ⟨n, rfl, hn⟩
    rw [h.2, count_set_none hn d, if_pos rfl]
  · intro hnot
    cases op with
    | start language variant => exact Nat.le_of_eq (by rw [h.1])
    | parseModule k text =>
        obtain ⟨-, h⟩ := h
        split at h
        · obtain ⟨d', h⟩ := h
          rw [h, List.count_append]
          exact Nat.le_add_right _ _
        · exact Nat.le_of_eq (by rw [h])
    | closeHandle n =>
        rw [h.2]
        exact count_le_set_none fun hn => hnot ⟨n, rfl, hn⟩
    | setNamedItem | eval | invoke | get | closeSession | evalOnce =>
        exact Nat.le_of_eq (by rw [h.2])

/-- **Exactly once.**  Take engines of any behaviour, a host, any history of operations from an empty
world, and one operation more.  The ledger is in order: nothing is called after it was closed, used
after it or its engine was given up, or given up twice.  Every engine ever made is held by one session
or was closed once, and every dispatch is held by one handle or was released once.  The last operation
closes an engine exactly if it closes the session that holds it, or made it and leaves it with no
session; and it releases a dispatch exactly if it closes the handle that holds it, or handed it out
and leaves it with no handle. -/
theorem released_exactly_once (E : Engine σ δ) (registry : Registry σ) (host : Host)
    (history : List Operation) (op : Operation) :
    let w := (fresh host).run (Audited.engine E) registry.audited history
    let result := w.perform (Audited.engine E) registry.audited op
    let ledger := result.2.host.ledger
    ∃ new, ledger = w.host.ledger ++ new ∧ Orderly ledger ∧ w.Passes op result ∧
      (∀ i, .made i ∈ ledger →
        ledger.count (.closed i) + result.2.engines.count (some i) = 1) ∧
      (∀ i d, .handedOut i d ∈ ledger →
        ledger.count (.released d) + result.2.dispatches.count (some d) = 1) ∧
      (∀ i, .closed i ∈ new ↔
        w.Closes op i ∨ .made i ∈ new ∧ some i ∉ result.2.engines) ∧
      (∀ d, .released d ∈ new ↔
        w.Releases op d ∨ (∃ i, .handedOut i d ∈ new) ∧ some d ∉ result.2.dispatches) := by
  intro w result ledger
  have hbefore : w.Accounted := accounted_run (accounted_fresh host) history
  obtain ⟨⟨hafter, -⟩, ⟨new, hnew⟩, hpasses⟩ := sound_perform registry hbefore op
  refine ⟨new, hnew.symm, hafter.orderly, hpasses, fun i => hafter.engine_settled,
    fun i d => hafter.dispatch_settled, fun i => ?_, fun d => ?_⟩
  · obtain ⟨hgone, hkept⟩ := hpasses.engines i
    exact hbefore.balanced.closed_mem_iff (hnew ▸ hafter) hgone hkept
  · obtain ⟨hgone, hkept⟩ := hpasses.dispatches d
    exact hbefore.balanced.released_mem_iff (hnew ▸ hafter) hgone hkept

end World

end ScriptHost
