import ScriptHost.Engine.Sum
import ScriptHost.Proofs.World

/-!
# What sessions rely on

A session hands its engine and its site on from call to call.  If every call of an engine keeps to a
relation between the engine and the site, and no call of a supported kind fails because of a name while the
relation holds, then the same is true of all operations of all sessions.

* `Bond`, `Upholds` — a relation of an engine to its site, and results of calls that keep to it.
* `Supports` — an engine that keeps to a relation.
* `Session.Served` — results of operations of a session that keep to it.
* `World.supported_run` — the relation holds in every session, after every history of operations.
* `Supports.sum` — the sum of two engines keeps to the relation of the one or of the other.
-/

namespace ScriptHost

variable {σ δ τ ε α : Type}

/-- An error other than that a name is unknown. -/
def NativeError.Known (e : NativeError) : Prop := ∀ n, e ≠ .unknownName n

/-- An error other than that a name is unknown to an engine. -/
def HostError.Known (e : HostError) : Prop := ∀ n, e ≠ .nativeCallFailure (.unknownName n)

/-- A relation between the state of an engine and its site. -/
abbrev Bond (σ : Type) := σ → Option Site → Prop

/-- The result of a call that keeps to a relation and does not fail because of a name. -/
inductive Upholds (P : Bond σ) : Except NativeError α × σ × Context → Prop where
  | ok {a : α} {s : σ} {c : Context} : P s c.site → Upholds P (.ok a, s, c)
  | error {e : NativeError} {s : σ} {c : Context} : P s c.site → e.Known → Upholds P (.error e, s, c)

/-- An engine that keeps to a relation with its site. -/
structure Supports (P : Bond σ) (E : Engine σ δ) : Prop where
  clear {s : σ} {site : Option Site} : P s site → P s (site.map Site.clear)
  initNew {s : σ} {c : Context} : P s c.site → Upholds P (E.initNew s c)
  connect {s : σ} {c : Context} : P s c.site → Upholds P (E.setState .connected s c)
  /-- A name is announced after its item was registered. -/
  announce {s : σ} {c : Context} (name : String) (v : Value) : P s c.site →
    Upholds P (E.addNamedItem name s (c.tell (·.insert name v)))
  parseText {s : σ} {c : Context} (text : String) (flags : ParseFlags) : P s c.site →
    Upholds P (E.parseText text flags s c)
  globalDispatch {s : σ} {c : Context} : P s c.site → Upholds P (E.globalDispatch s c)
  getProperty {s : σ} {c : Context} (d : δ) (name : String) : P s c.site → Upholds P (E.getProperty d name s c)
  invokeMethod {s : σ} {c : Context} (d : δ) (name : String) (args : List Value) : P s c.site →
    P (E.invokeMethod d name args s c).2.1 (E.invokeMethod d name args s c).2.2.site
  release (d : δ) (c : Context) : (E.release d c).2.site = c.site

/-- A factory that does not fail, and whose engines begin in a relation with their sites. -/
def Factory.Begins (P : Bond σ) (E : Engine σ δ) (factory : Factory σ) : Prop :=
  ∀ host, ∃ s, (factory host).1 = .ok s ∧
    ∀ host', P (E.setSite s ⟨some {}, host'⟩).1 (E.setSite s ⟨some {}, host'⟩).2.site

/-- A registry of such factories. -/
def Registry.Begins (P : Bond σ) (E : Engine σ δ) (registry : Registry σ) : Prop :=
  ∀ language factory, registry.lookup language = some factory → factory.Begins P E

theorem Registry.lookup_insertEntry (name : String) (factory : Factory σ) (entries : List (String × Factory σ))
    (k : String) : (insertEntry name factory entries).lookup k
      = if k = name then some factory else entries.lookup k := by
  induction entries with
  | nil =>
    unfold insertEntry
    grind
  | cons entry rest ih =>
    unfold insertEntry
    grind

theorem Value.lookup_insertEntry (name : String) (v : Value) (entries : List (String × Value)) (k : String) :
    (insertEntry name v entries).lookup k = if k = name then some v else entries.lookup k := by
  induction entries with
  | nil =>
    unfold insertEntry
    grind
  | cons entry rest ih =>
    unfold insertEntry
    grind

theorem Site.item?_insert_self (s : Site) (name : String) (v : Value) : (s.insert name v).item? name = some v :=
  (Value.lookup_insertEntry name v s.items name).trans (if_pos rfl)

theorem Registry.Begins.empty (P : Bond σ) (E : Engine σ δ) : Registry.Begins P E .empty := nofun

theorem Registry.Begins.register {P : Bond σ} {E : Engine σ δ} {registry : Registry σ} (h : registry.Begins P E)
    {factory : Factory σ} (hfactory : factory.Begins P E) (language : String) :
    (registry.register language factory).Begins P E := by
  intro language' factory' hlookup
  rw [lookup, Registry.register, lookup_insertEntry] at hlookup
  split at hlookup
  · cases hlookup
    exact hfactory
  · exact h language' factory' hlookup

/-! ## Sessions -/

/-- The engine of a session, if there is one, keeps to a relation with the site. -/
def Session.Supported (P : Bond σ) (s : Session σ) : Prop := ∀ engine, s.engine = some engine → P engine s.site

/-- The result of an operation that keeps to a relation and does not fail because of a name. -/
inductive Session.Served (P : Bond σ) : Except HostError α × Session σ × Host → Prop where
  | ok {a : α} {s : Session σ} {host : Host} : s.Supported P → Session.Served P (.ok a, s, host)
  | error {e : HostError} {s : Session σ} {host : Host} : s.Supported P → e.Known →
    Session.Served P (.error e, s, host)

/-- The result of starting a session, which then keeps to a relation, or does not start for a reason other
than a name. -/
inductive Session.Opened (P : Bond σ) : Except HostError (Session σ) × Host → Prop where
  | ok {s : Session σ} {host : Host} : s.Supported P → Session.Opened P (.ok s, host)
  | error {e : HostError} {host : Host} : e.Known → Session.Opened P (.error e, host)

theorem NativeError.Known.surface {e : NativeError} (h : e.Known) (c : Context) : (c.surface e).1.Known := by
  intro n hn
  unfold Context.surface at hn
  split at hn
  · cases hn
  · cases hn
    exact h n rfl

theorem NativeError.Known.raw {e : NativeError} (h : e.Known) : (HostError.nativeCallFailure e).Known := by
  intro n hn
  cases hn
  exact h n rfl

theorem HostError.Known.against {e : HostError} (h : e.Known) (text : String) : (e.against text).Known := by
  intro n hn
  cases e <;> first | exact h n hn | cases hn

theorem HostError.Known.disposed (what : String) : (HostError.disposed what).Known := fun _ h => by cases h

theorem HostError.Known.invalidName (what : String) : (HostError.invalidName what).Known := fun _ h => by cases h

namespace Session

variable {P : Bond σ} {E : Engine σ δ} {s : Session σ}

theorem Supported.update {engine : σ} {c : Context} (h : P engine c.site) : (s.update engine c).Supported P := by
  rintro _ ⟨⟩
  exact h

theorem bond_surface (hP : Supports P E) {engine : σ} {c : Context} (h : P engine c.site) (e : NativeError) :
    P engine (c.surface e).2.site := by
  unfold Context.surface
  split
  · exact hP.clear h
  · exact h

theorem served_fail (hP : Supports P E) {engine : σ} {c : Context} {e : NativeError} (h : P engine c.site)
    (he : e.Known) : Served P (s.fail (α := α) e engine c) :=
  .error (.update (bond_surface hP h e)) (he.surface c)

theorem served_setNamedItem (hP : Supports P E) (h : s.Supported P) (name : String) (v : Value) (host : Host) :
    Served P (s.setNamedItem E name v host) := by
  unfold setNamedItem
  split
  · exact .error h (.invalidName _)
  split
  · rename_i engine site hengine hsite
    have hannounce := hP.announce (c := ⟨some site, host⟩) name v (hsite ▸ h engine hengine)
    simp only [Context.tell, Option.map_some] at hannounce
    generalize E.addNamedItem name engine ⟨some (site.insert name v), host⟩ = r at hannounce ⊢
    cases hannounce with
    | ok hafter => exact .ok (.update hafter)
    | error hafter he => exact .error (.update hafter) he.raw
  · exact .error h (.disposed _)

theorem served_setNamedItems (hP : Supports P E) (h : s.Supported P) (items : List (String × Value))
    (host : Host) : Served P (s.setNamedItems E host items) := by
  induction items generalizing s host with
  | nil => exact .ok h
  | cons item rest ih =>
    have hitem := served_setNamedItem hP h item.1 item.2 host
    unfold setNamedItems
    generalize s.setNamedItem E item.1 item.2 host = r at hitem ⊢
    cases hitem with
    | ok hafter => exact ih hafter _
    | error hafter he => exact .error hafter he

theorem served_connect (hP : Supports P E) (h : s.Supported P) (host : Host)
    {use : σ → Context → Except HostError α × Session σ × Host}
    (huse : ∀ engine c, P engine c.site → Served P (use engine c)) : Served P (s.connect E host use) := by
  unfold connect
  split
  · rename_i engine site hengine hsite
    have hstate := hP.connect (c := ⟨some site, host⟩) (hsite ▸ h engine hengine)
    generalize E.setState .connected engine ⟨some site, host⟩ = r at hstate ⊢
    cases hstate with
    | ok hafter => exact huse _ _ (hP.clear hafter)
    | error hafter he => exact .error (.update hafter) he.raw
  · exact .error h (.disposed _)

theorem served_evalWide (hP : Supports P E) (text : String) {engine : σ} {c : Context} (h : P engine c.site) :
    Served P (s.evalWide E text engine c) := by
  have hparse := hP.parseText text { expression := true } h
  unfold evalWide
  generalize E.parseText text { expression := true } engine c = r at hparse ⊢
  cases hparse with
  | ok hafter => exact .ok (.update hafter)
  | error hafter he => exact served_fail hP hafter he

theorem served_evalNarrow (hP : Supports P E) (text : String) {engine : σ} {c : Context} (h : P engine c.site) :
    Served P (s.evalNarrow E text engine c) := by
  have hparse := hP.parseText (E.assignment engine resultVariable text) {} h
  unfold evalNarrow
  generalize E.parseText (E.assignment engine resultVariable text) {} engine c = r at hparse ⊢
  cases hparse with
  | error hafter he => exact .error (.update (bond_surface hP hafter _)) ((he.surface _).against text)
  | @ok _ engine c hparsed =>
    have hdispatch := hP.globalDispatch hparsed
    dsimp only
    generalize E.globalDispatch engine c = r at hdispatch ⊢
    cases hdispatch with
    | error hafter he => exact served_fail hP hafter he
    | @ok d engine c hdispatched =>
      have hread := hP.getProperty d resultVariable hdispatched
      dsimp only
      generalize E.getProperty d resultVariable engine c = r at hread ⊢
      cases hread with
      | ok hafter => exact .ok (.update ((hP.release d _).symm ▸ hafter))
      | error hafter he => exact .error (.update ((hP.release d _).symm ▸ bond_surface hP hafter _)) (he.surface _)

theorem served_eval (hP : Supports P E) (h : s.Supported P) (text : String) (host : Host) :
    Served P (s.eval E text host) := by
  refine served_connect hP h host fun engine c hc => ?_
  cases s.variant with
  | wide => exact served_evalWide hP text hc
  | narrow => exact served_evalNarrow hP text hc

theorem served_parseModule (hP : Supports P E) (h : s.Supported P) (text : String) (host : Host) :
    Served P (s.parseModule E text host) := by
  refine served_connect hP h host fun engine c hc => ?_
  have hparse := hP.parseText text { persistent := true } hc
  generalize E.parseText text { persistent := true } engine c = r at hparse ⊢
  cases hparse with
  | error hafter he => exact served_fail hP hafter he
  | @ok _ engine c hparsed =>
    have hdispatch := hP.globalDispatch hparsed
    dsimp only
    generalize E.globalDispatch engine c = r at hdispatch ⊢
    cases hdispatch with
    | ok hafter => exact .ok (.update hafter)
    | error hafter he => exact served_fail hP hafter he

theorem supported_close (host : Host) : (s.close E host).1.Supported P := by
  intro engine hengine
  unfold close at hengine
  split at hengine
  · rename_i hnone
    rw [hnone] at hengine
    cases hengine
  · cases hengine

theorem opened_start (hP : Supports P E) {registry : Registry σ} (hbegins : registry.Begins P E)
    (language : String) (variant : Variant) (host : Host) :
    Opened P (start E registry language variant host) := by
  unfold start
  split
  · exact .error (.invalidName _)
  split
  · exact .error fun n h => by cases h
  · rename_i factory hlookup
    obtain ⟨engine, hmade, hbegun⟩ := hbegins language factory hlookup host
    generalize factory host = made at hmade
    obtain ⟨answer, host⟩ := made
    subst hmade
    dsimp only
    split
    · exact .error fun n h => by cases h
    · have hinit := hP.initNew (hbegun host)
      generalize E.initNew (E.setSite engine ⟨some {}, host⟩).1 (E.setSite engine ⟨some {}, host⟩).2 = r at hinit ⊢
      cases hinit with
      | error hafter he => exact .error he.raw
      | ok hafter =>
        refine .ok ?_
        rintro _ ⟨⟩
        exact hafter

end Session

theorem evalOnce_known {P : Bond σ} {E : Engine σ δ} (hP : Supports P E) {registry : Registry σ}
    (hbegins : registry.Begins P E) (language text : String) (items : List (String × Value)) (variant : Variant)
    (host : Host) (e : HostError) (he : (evalOnce E registry language text items variant host).1 = .error e) :
    e.Known := by
  have hstart := Session.opened_start hP hbegins language variant host
  unfold evalOnce at he
  generalize Session.start E registry language variant host = r at hstart he
  cases hstart with
  | error hknown =>
    cases he
    exact hknown
  | @ok s host hsupported =>
    have hitems := Session.served_setNamedItems hP hsupported items host
    dsimp only at he
    generalize s.setNamedItems E host items = r at hitems he
    cases hitems with
    | error _ hknown =>
      cases he
      exact hknown
    | @ok _ s host hsupplied =>
      have heval := Session.served_eval hP hsupplied text host
      dsimp only at he
      generalize s.eval E text host = r at heval he
      cases heval with
      | ok _ => cases he
      | error _ hknown =>
        cases he
        exact hknown

theorem Handle.supported_use {P : Bond σ} {E : Engine σ δ} {s : Session σ} {handle : Handle δ}
    {call : δ → Action σ Value} (hP : Supports P E) (h : s.Supported P)
    (hcall : ∀ d engine c, P engine c.site → P (call d engine c).2.1 (call d engine c).2.2.site)
    (what name : String) (host : Host) : (use what handle s name host call).2.1.Supported P := by
  unfold use
  split
  · exact h
  · rename_i d _
    split
    · exact h
    split
    · rename_i engine site hengine hsite
      have hcleared : P engine ((some site).map Site.clear) := hP.clear (hsite ▸ h engine hengine)
      have hafter := hcall d engine ⟨some site.clear, host⟩ hcleared
      generalize call d engine ⟨some site.clear, host⟩ = r at hafter ⊢
      rcases r with ⟨e | v, engine', c⟩
      · exact .update (Session.bond_surface hP hafter e)
      · exact .update hafter
    · exact h

/-! ## Worlds -/

namespace World

variable {P : Bond σ} {E : Engine σ δ} {registry : Registry σ} {w : World σ δ}

/-- Every session keeps to a relation. -/
def Supported (P : Bond σ) (w : World σ δ) : Prop := ∀ s ∈ w.sessions, s.Supported P

/-- The result of an operation after which every session keeps to a relation, and that does not fail because
of a name. -/
structure Served (P : Bond σ) (r : Outcome × World σ δ) : Prop where
  supported : r.2.Supported P
  known : ∀ e, r.1 = .error e → e.Known

theorem Supported.withSession (h : w.Supported P) (i : Nat) {s : Session σ} (hs : s.Supported P) (host : Host) :
    (w.withSession i s host).Supported P := by
  intro s' hs'
  rcases List.mem_or_eq_of_mem_set hs' with hold | rfl
  · exact h s' hold
  · exact hs

theorem served_onSession (h : w.Supported P) (i : Nat)
    {call : Session σ → Host → Except HostError α × Session σ × Host}
    (hcall : ∀ s host, s.Supported P → Session.Served P (call s host)) (value : α → Option Value) :
    Served P (w.onSession i call value) := by
  unfold onSession
  split
  · exact ⟨h, fun e he => by cases he⟩
  · rename_i s hs
    have hserved := hcall s w.host (h s (List.mem_of_getElem? hs))
    generalize call s w.host = r at hserved ⊢
    cases hserved with
    | ok hafter => exact ⟨h.withSession i hafter _, fun e he => by cases he⟩
    | error hafter hknown =>
      refine ⟨h.withSession i hafter _, fun e he => ?_⟩
      cases he
      exact hknown

theorem served_parseModule (hP : Supports P E) (h : w.Supported P) (i : Nat) (text : String) :
    Served P (w.parseModule E i text) := by
  unfold parseModule
  split
  · exact ⟨h, fun e he => by cases he⟩
  · rename_i s hs
    have hserved := Session.served_parseModule hP (h s (List.mem_of_getElem? hs)) text w.host
    generalize s.parseModule E text w.host = r at hserved ⊢
    cases hserved with
    | @ok _ _ host hafter => exact ⟨h.withSession i hafter host, fun e he => by cases he⟩
    | error hafter hknown =>
      refine ⟨h.withSession i hafter _, fun e he => ?_⟩
      cases he
      exact hknown

theorem supported_onHandle (h : w.Supported P) (n : Nat)
    {call : Handle δ → Session σ → Host → Except HostError Value × Session σ × Host}
    (hcall : ∀ handle s host, s.Supported P → (call handle s host).2.1.Supported P) :
    (w.onHandle n call).2.Supported P := by
  unfold onHandle
  split
  · exact h
  · unfold onSession
    split
    · exact h
    · rename_i s hs
      exact h.withSession _ (hcall _ s w.host (h s (List.mem_of_getElem? hs))) _

theorem served_start (hP : Supports P E) (hbegins : registry.Begins P E) (h : w.Supported P) (language : String)
    (variant : Variant) : Served P (w.start E registry language variant) := by
  have hopened := Session.opened_start hP hbegins language variant w.host
  unfold start
  generalize Session.start E registry language variant w.host = r at hopened ⊢
  cases hopened with
  | error hknown =>
    refine ⟨h, fun e he => ?_⟩
    cases he
    exact hknown
  | ok hsupported =>
    refine ⟨fun s hs => ?_, fun e he => by cases he⟩
    rcases List.mem_append.mp hs with hold | hnew
    · exact h s hold
    · rwa [List.mem_singleton.mp hnew]

/-- Every operation leaves the sessions in the relation. -/
theorem supported_perform (hP : Supports P E) (hbegins : registry.Begins P E) (h : w.Supported P)
    (op : Operation) : (w.perform E registry op).2.Supported P := by
  cases op with
  | start language variant => exact (served_start hP hbegins h language variant).supported
  | setNamedItem i name v =>
    exact (served_onSession h i (fun s host hs => Session.served_setNamedItem hP hs name v host) _).supported
  | eval i text => exact (served_onSession h i (fun s host hs => Session.served_eval hP hs text host) _).supported
  | parseModule i text => exact (served_parseModule hP h i text).supported
  | invoke n name args =>
    exact supported_onHandle h n fun handle s host hs =>
      Handle.supported_use hP hs (fun d engine c hc => hP.invokeMethod d name args hc) _ name host
  | get n name =>
    refine supported_onHandle h n fun handle s host hs =>
      Handle.supported_use hP hs (fun d engine c hc => ?_) _ name host
    have hread := hP.getProperty d name hc
    generalize E.getProperty d name engine c = r at hread ⊢
    cases hread <;> assumption
  | closeHandle n =>
    simp only [perform, closeHandle]
    split <;> exact h
  | closeSession i =>
    simp only [perform, closeSession]
    split
    · exact h
    · exact h.withSession i (Session.supported_close _) _
  | evalOnce language text items variant => exact h

/-- So does every history of operations. -/
theorem supported_run (hP : Supports P E) (hbegins : registry.Begins P E) (h : w.Supported P)
    (history : List Operation) : (w.run E registry history).Supported P := by
  induction history generalizing w with
  | nil => exact h
  | cons op rest ih =>
    rw [run_cons]
    exact ih (supported_perform hP hbegins h op)

end World

/-! ## Sums of engines -/

/-- An engine that is never made. -/
theorem supports_none {E : Engine σ δ} (hE : ∀ d c, (E.release d c).2.site = c.site) :
    Supports (fun _ _ => False) E where
  clear h := h
  initNew h := h.elim
  connect h := h.elim
  announce _ _ h := h.elim
  parseText _ _ h := h.elim
  globalDispatch h := h.elim
  getProperty _ _ h := h.elim
  invokeMethod _ _ _ h := h
  release := hE

section Sum

variable {P : Bond σ} {Q : Bond τ}

theorem Upholds.map {β : Type} {r : Except NativeError α × σ × Context} (h : Upholds P r) (f : α → β) {g : σ → τ}
    (hg : ∀ s site, P s site → Q (g s) site) : Upholds Q (r.1.map f, g r.2.1, r.2.2) := by
  cases h with
  | ok hafter => exact .ok (hg _ _ hafter)
  | error hafter he => exact .error (hg _ _ hafter) he

theorem Upholds.onLeft {act : Action σ α} {s : σ} {c : Context} (h : Upholds P (act s c)) :
    Upholds (Sum.elim P Q) (Engine.onLeft act s c) := by
  have hmap := h.map id (Q := Sum.elim P Q) (g := Sum.inl) fun _ _ => id
  rwa [Except.map_id] at hmap

theorem Upholds.onRight {act : Action τ α} {s : τ} {c : Context} (h : Upholds Q (act s c)) :
    Upholds (Sum.elim P Q) (Engine.onRight act s c) := by
  have hmap := h.map id (Q := Sum.elim P Q) (g := Sum.inr) fun _ _ => id
  rwa [Except.map_id] at hmap

/-- The sum of two engines keeps to the relation of the one or of the other. -/
theorem Supports.sum {E : Engine σ δ} {F : Engine τ ε} (hE : Supports P E) (hF : Supports Q F) :
    Supports (Sum.elim P Q) (E.sum F) where
  clear {s site} h := by
    cases s with
    | inl s => exact hE.clear h
    | inr s => exact hF.clear h
  initNew {s c} h := by
    cases s with
    | inl s => exact (hE.initNew h).onLeft
    | inr s => exact (hF.initNew h).onRight
  connect {s c} h := by
    cases s with
    | inl s => exact (hE.connect h).onLeft
    | inr s => exact (hF.connect h).onRight
  announce {s c} name v h := by
    cases s with
    | inl s => exact (hE.announce name v h).onLeft
    | inr s => exact (hF.announce name v h).onRight
  parseText {s c} text flags h := by
    cases s with
    | inl s => exact (hE.parseText text flags h).onLeft
    | inr s => exact (hF.parseText text flags h).onRight
  globalDispatch {s c} h := by
    cases s with
    | inl s => exact (hE.globalDispatch (s := s) h).map Sum.inl fun _ _ => id
    | inr s => exact (hF.globalDispatch (s := s) h).map Sum.inr fun _ _ => id
  getProperty {s c} d name h := by
    rcases d with d | d <;> rcases s with s | s
    · exact (hE.getProperty d name h).onLeft
    · exact .error h fun n hn => by cases hn
    · exact .error h fun n hn => by cases hn
    · exact (hF.getProperty d name h).onRight
  invokeMethod {s c} d name args h := by
    rcases d with d | d <;> rcases s with s | s
    · exact hE.invokeMethod d name args h
    · exact h
    · exact h
    · exact hF.invokeMethod d name args h
  release d c := by
    cases d with
    | inl d => exact hE.release d c
    | inr d => exact hF.release d c

end Sum

end ScriptHost
