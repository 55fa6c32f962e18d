import ScriptHost.Proofs.Bonds
import ScriptHost.Proofs.Disposal
import ScriptHost.Proofs.Narration

/-!
# What a refused item leaves behind

A session writes an item into the table of its site and then announces the name to its engine.  When the engine
refuses the name, the table keeps the new value, and the caller is told.  So the session is not as it was, unless the
call did not get as far as the engine; but the item of that one name is all that a refusal leaves behind, if the engine
itself ignores the name that it refused.

* `Session.setNamedItem_eq_error` — the ways in which the call fails, each with the session after it.
* `Engine.AnnouncesByTelling`, `Engine.IgnoresRefused` — what is asked of an engine.
* `World.Alike` — worlds that differ in what engines do not see, which no operation tells apart.
* `World.refused_item_law` — **a name that is refused, and nothing else, stands for the new value**.
* `World.refused_item_stays` — and this is a change.
-/

namespace ScriptHost

variable {σ δ α : Type} {E : Engine σ δ} {registry : Registry σ}

/-! ## Items of sites -/

theorem Site.item?_insert (s : Site) (name : String) (v : Value) (n : String) :
    (s.insert name v).item? n = if n = name then some v else s.item? n :=
  Value.lookup_insertEntry name v s.items n

/-- What an engine tells a site leaves its items as they are. -/
theorem Site.item?_hearAll (s : Site) (said : List Notification) (n : String) :
    (s.hearAll said).item? n = s.item? n := by
  induction said using List.reverseRecOn with
  | nil => rfl
  | append_singleton said notification ih =>
    rw [Site.hearAll_append, ← ih]
    cases notification <;> rfl

/-! ## Sessions -/

namespace Session

variable {s s' : Session σ} {name : String} {v : Value} {host host' : Host} {e : HostError}

/-- What a name resolves to, through the site of a session. -/
def resolve? (s : Session σ) (n : String) : Option Value := s.site.bind (·.item? n)

/-- The session with an item in the table of its site, of which nobody was told. -/
def withItem (s : Session σ) (name : String) (v : Value) : Session σ :=
  { s with site := s.site.map (·.insert name v) }

/-- The call fails without a trace, or because the engine, asked with the item in its table, refuses the name. -/
theorem setNamedItem_eq_error (h : s.setNamedItem E name v host = (.error e, s', host')) :
    (s' = s ∧ host' = host ∧ (e = .invalidName "named item name" ∨ e = .disposed "script session"))
      ∨ ∃ reason engine site engine' c, s.engine = some engine ∧ s.site = some site
        ∧ E.addNamedItem name engine ⟨some (site.insert name v), host⟩ = (.error reason, engine', c)
        ∧ e = .nativeCallFailure reason ∧ s' = s.update engine' c ∧ host' = c.host := by
  unfold setNamedItem at h
  split at h
  · cases h
    exact .inl ⟨rfl, rfl, .inl rfl⟩
  split at h
  · rename_i engine site hengine hsite
    split at h
    · rename_i reason engine' c hannounce
      cases h
      exact .inr ⟨reason, engine, site, engine', c, hengine, hsite, hannounce, rfl, rfl, rfl⟩
    · cases h
  · cases h
    exact .inl ⟨rfl, rfl, .inr rfl⟩

end Session

/-! ## Engines -/

namespace Engine

/-- To announce a name, an engine only tells its site things. -/
def AnnouncesByTelling (E : Engine σ δ) : Prop :=
  ∀ name s c, ∃ said, (E.addNamedItem name s c).2.2.site = c.site.map (·.hearAll said)

/-- A name that the engine refuses leaves the engine and its site as they were, and a host that engines cannot tell
from what it was. -/
def IgnoresRefused (E : Engine σ δ) (same : Host → Host → Prop) : Prop :=
  ∀ name s c reason s' c', E.addNamedItem name s c = (.error reason, s', c') → s' = s ∧ c'.Alike same c

end Engine

/-! ## Worlds -/

namespace World

/-- Worlds with the same sessions and handles, and related hosts. -/
inductive Alike (same : Host → Host → Prop) : World σ δ → World σ δ → Prop where
  | mk {sessions : List (Session σ)} {handles : List (Nat × Handle δ)} {host host' : Host} :
    same host host' → Alike same ⟨sessions, handles, host⟩ ⟨sessions, handles, host'⟩

namespace Alike

variable {same : Host → Host → Prop} {w w' : World σ δ}

theorem onSession (hw : Alike same w w') (i : Nat) (value : α → Option Value)
    {call : Session σ → Host → Except HostError α × Session σ × Host}
    (hcall : ∀ s, Agreed (Agreed same) (call s w.host) (call s w'.host)) :
    Agreed (Alike same) (w.onSession i call value) (w'.onSession i call value) := by
  cases hw with
  | @mk sessions handles host host' h =>
    unfold World.onSession
    dsimp only
    cases sessions[i]? with
    | none => exact .mk (.mk h)
    | some s =>
      have hagreed : Agreed (Agreed same) (call s host) (call s host') := hcall s
      dsimp only
      refine Agreed.elim_state hagreed fun answer s host host' h => ?_
      exact .mk (.mk h)

theorem onHandle (hw : Alike same w w') (n : Nat) (what name : String) {call : δ → Action σ Value}
    (hcall : ∀ d, Action.Overlooks same (call d)) :
    Agreed (Alike same) (w.onHandle n fun handle s host => handle.use what s name host call)
      (w'.onHandle n fun handle s host => handle.use what s name host call) := by
  have hw' := hw
  cases hw with
  | @mk sessions handles host host' h =>
    unfold World.onHandle
    dsimp only
    cases handles[n]? with
    | none => exact .mk (.mk h)
    | some pair => exact hw'.onSession pair.1 some fun s => pair.2.agreed_use s what name hcall h

/-- No operation tells the two worlds apart. -/
theorem perform (hE : E.Overlooks same) (hregistry : registry.Overlooks same) (hw : Alike same w w')
    (op : Operation) : Agreed (Alike same) (w.perform E registry op) (w'.perform E registry op) := by
  have hw' := hw
  cases hw with
  | @mk sessions handles host host' h =>
    cases op with
    | setNamedItem i name v => exact hw'.onSession i _ fun s => s.agreed_setNamedItem hE name v h
    | eval i text => exact hw'.onSession i _ fun s => s.agreed_eval hE text h
    | invoke n name args => exact hw'.onHandle n "method name" name fun d => hE.invokeMethod d name args
    | get n name => exact hw'.onHandle n "property name" name fun d => hE.getProperty d name
    | start language variant =>
      simp only [World.perform, World.start]
      refine Agreed.elim (Session.agreed_start hE hregistry language variant h) fun answer host host' h => ?_
      cases answer <;> exact .mk (.mk h)
    | parseModule i text =>
      simp only [World.perform, World.parseModule]
      cases sessions[i]? with
      | none => exact .mk (.mk h)
      | some s =>
        dsimp only
        refine Agreed.elim_state (s.agreed_parseModule hE text h) fun answer s host host' h => ?_
        cases answer <;> exact .mk (.mk h)
    | closeHandle n =>
      simp only [World.perform, World.closeHandle]
      cases handles[n]? with
      | none => exact .mk (.mk h)
      | some pair =>
        dsimp only
        refine Agreed.elim (pair.2.agreed_close hE h) fun handle host host' h => ?_
        exact .mk (.mk h)
    | closeSession i =>
      simp only [World.perform, World.closeSession]
      cases sessions[i]? with
      | none => exact .mk (.mk h)
      | some s =>
        dsimp only
        refine Agreed.elim (s.agreed_close hE h) fun s host host' h => ?_
        exact .mk (.mk h)
    | evalOnce language text items variant =>
      simp only [World.perform]
      refine Agreed.elim (agreed_evalOnce hE hregistry language text items variant h) fun answer host host' h => ?_
      exact .mk (.mk h)

theorem answers (hE : E.Overlooks same) (hregistry : registry.Overlooks same) (hw : Alike same w w')
    (later : List Operation) : w.answers E registry later = w'.answers E registry later := by
  induction later generalizing w w' with
  | nil => rfl
  | cons op rest ih =>
    have hstep := hw.perform hE hregistry op
    rw [World.answers, World.answers, hstep.answer, ih hstep.rest]

end Alike

/-- What a name resolves to in a session. -/
def resolve? (w : World σ δ) (i : Nat) (n : String) : Option Value := w.sessions[i]?.bind (·.resolve? n)

/-- The world with an item in the table of a session, of which nobody was told. -/
def withItem (w : World σ δ) (i : Nat) (name : String) (v : Value) : World σ δ :=
  match w.sessions[i]? with
  | none => w
  | some s => w.withSession i (s.withItem name v) w.host

/-- **A refused item.**  Take engines of any behaviour, and a world after any operations.  If an item cannot be set, the
call may not have reached the engine, and nothing has changed.  Otherwise the engine refused the name.  If all it does
about a name is to tell its site things, then this name, and no other and in no other session, has another meaning than
before, which is the new value.  If it ignores a name that it refused, every later operation answers as if just that
item had been written into the table. -/
theorem refused_item_law {w w' : World σ δ} {i : Nat} {name : String} {v : Value} {e : HostError}
    (h : w.perform E registry (.setNamedItem i name v) = (.error e, w')) :
    (w' = w ∧ (e = .invalidName "named item name" ∨ e = .disposed "script session")) ∨
    ((∃ reason, e = .nativeCallFailure reason) ∧
      (E.AnnouncesByTelling → ∀ k n, w'.resolve? k n = if k = i ∧ n = name then some v else w.resolve? k n) ∧
      ∀ same : Host → Host → Prop, E.Overlooks same → registry.Overlooks same → E.IgnoresRefused same →
        ∀ later, w'.answers E registry later = (w.withItem i name v).answers E registry later) := by
  unfold perform onSession at h
  dsimp only at h
  cases hs : w.sessions[i]? with
  | none =>
    rw [hs] at h
    cases h
  | some s =>
    rw [hs] at h
    dsimp only at h
    rcases hcall : s.setNamedItem E name v w.host with ⟨_ | _, s', host'⟩
    case ok =>
      rw [hcall] at h
      cases h
    rw [hcall] at h
    cases h
    rcases Session.setNamedItem_eq_error hcall with
      ⟨rfl, rfl, he⟩ | ⟨reason, engine, site, engine', c, hengine, hsite, hannounce, rfl, rfl, rfl⟩
    · exact .inl ⟨withSession_self hs, he⟩
    refine .inr ⟨⟨reason, rfl⟩, ?_, ?_⟩
    · intro htells k n
      obtain ⟨said, hsaid⟩ := htells name engine ⟨some (site.insert name v), w.host⟩
      rw [hannounce] at hsaid
      have hafter : c.site = some ((site.insert name v).hearAll said) := hsaid
      by_cases hk : k = i
      · subst hk
        have hlt : k < w.sessions.length := (List.getElem?_eq_some_iff.1 hs).1
        simp [resolve?, withSession, Session.resolve?, Session.update, List.getElem?_set_self hlt, hs, hsite, hafter,
          Site.item?_hearAll, Site.item?_insert]
      · simp [resolve?, withSession, hk, List.getElem?_set_ne (Ne.symm hk)]
    · intro same hE hregistry hignores later
      obtain ⟨rfl, halike⟩ := hignores name engine _ reason engine' c hannounce
      refine Alike.answers hE hregistry ?_ later
      cases halike with
      | mk hhost =>
        have hwritten (host : Host) : s.update engine' ⟨some (site.insert name v), host⟩ = s.withItem name v := by
          simp [Session.update, Session.withItem, hengine, hsite]
        rw [hwritten, withItem, hs]
        exact .mk hhost

end World

/-! ### Rehearsed engines that refuse names -/

namespace Engine.Rehearsed

/-- An engine that answers as it was told to, except to names. -/
def naming (announce : String → Action EngineState Unit) : Engine EngineState Unit where
  __ := engine .required
  addNamedItem := announce

/-- The only engine is a rehearsed one. -/
def stubs : Registry EngineState := Registry.empty.register "stub" factory

theorem overlooks_stubs : stubs.Overlooks Host.SameButRecord := by
  intro language f hf host host' h
  rw [Registry.lookup, stubs, Registry.register, Registry.lookup_insertEntry] at hf
  split at hf
  · cases hf
    exact agreed_factory h
  · cases hf

/-- A program that has started one session of such an engine. -/
def started (replies : List Reply) : World EngineState Unit where
  sessions := [⟨"stub", some .initialized, some {}, .wide⟩]
  host := { replies := { addNamedItem := replies }, events := #[.factory, .setSite, .initNew] }

theorem run_start (announce : String → Action EngineState Unit) (replies : List Reply) (later : List Operation) :
    (World.fresh { replies := { addNamedItem := replies } }).run (naming announce) stubs (.start "stub" .wide :: later)
      = (started replies).run (naming announce) stubs later := by
  have hlookup : stubs.lookup "stub" = some factory := by
    rw [Registry.lookup, stubs, Registry.register, Registry.lookup_insertEntry, if_pos rfl]
  have hstart : Session.start (naming announce) stubs "stub" .wide { replies := { addNamedItem := replies } }
      = (.ok ⟨"stub", some .initialized, some {}, .wide⟩, (started replies).host) := by
    unfold Session.start
    rw [if_neg (by decide), hlookup]
    rfl
  have hhost : (World.fresh { replies := { addNamedItem := replies } } : World EngineState Unit).host
      = { replies := { addNamedItem := replies } } := rfl
  rw [World.run_cons]
  simp only [World.perform, World.start, hhost, hstart]
  rfl

/-- Names are taken until the engine is connected, and refused from then on. -/
def untilConnected : String → Action EngineState Unit := fun name s c =>
  (if s = .connected then .error (.invalidState s) else .ok (), s, c.record (.addNamedItem name))

theorem untilConnected_announces : (naming untilConnected).AnnouncesByTelling := by
  intro name s c
  exact ⟨[], (Site.map_hearAll_nil c.site).symm⟩

theorem untilConnected_ignores : (naming untilConnected).IgnoresRefused Host.SameButRecord := by
  intro name s c reason s' c' h
  obtain ⟨-, hrest⟩ := Prod.mk.inj h
  obtain ⟨rfl, rfl⟩ := Prod.mk.inj hrest
  obtain ⟨site, host⟩ := c
  exact ⟨rfl, .mk ⟨rfl, rfl⟩⟩

theorem overlooks_untilConnected : (naming untilConnected).Overlooks Host.SameButRecord where
  __ := overlooks_record .required
  addNamedItem _ _ _ _ h := .mk (.mk (alike_record h _))

end Engine.Rehearsed

namespace World

open Engine.Rehearsed

/-- An engine refuses to be told a name again.  The call fails, and the name stands for the new value. -/
theorem refused_item_stays :
    let E := Engine.Rehearsed.engine .required
    let w := (fresh { replies := { addNamedItem := [{}, { answer := .error (.failure "no more names") }] } }).run E
      stubs [.start "stub" .wide, .setNamedItem 0 "a" (.text "old")]
    let r := w.perform E stubs (.setNamedItem 0 "a" (.text "new"))
    r.1 = .error (.nativeCallFailure (.failure "no more names")) ∧ w.resolve? 0 "a" = some (.text "old") ∧
      r.2.resolve? 0 "a" = some (.text "new") := by
  intro E w r
  have hw : w = _ := run_start (engine .required).addNamedItem _ _
  simp only [r, hw]
  refine ⟨rfl, ?_, ?_⟩
  · exact Site.item?_insert_self {} "a" (.text "old")
  · exact Site.item?_insert_self (Site.insert {} "a" (.text "old")) "a" (.text "new")

/-- An engine that takes no names once it is connected.  A name that it took before is refused with a new value. -/
theorem refused_item_law_connected :
    let E := naming untilConnected
    let w := (fresh {}).run E stubs [.start "stub" .wide, .setNamedItem 0 "a" (.text "old"), .eval 0 "1"]
    let r := w.perform E stubs (.setNamedItem 0 "a" (.text "new"))
    r.1 = .error (.nativeCallFailure (.invalidState .connected)) ∧ w.resolve? 0 "a" = some (.text "old") ∧
      (∀ n, r.2.resolve? 0 n = if n = "a" then some (.text "new") else w.resolve? 0 n) ∧
      r.2.answers E stubs [.eval 0 "a"] = (w.withItem 0 "a" (.text "new")).answers E stubs [.eval 0 "a"] := by
  intro E w r
  have hw : w = _ := run_start untilConnected [] _
  have hanswer : r.1 = .error (.nativeCallFailure (.invalidState .connected)) := by
    simp only [r, hw]
    rfl
  have hbefore : w.resolve? 0 "a" = some (.text "old") := by
    rw [hw]
    exact Site.item?_insert_self {} "a" (.text "old")
  have hrefused : w.perform E stubs (.setNamedItem 0 "a" (.text "new"))
      = (.error (.nativeCallFailure (.invalidState .connected)), r.2) := Prod.ext hanswer rfl
  rcases refused_item_law hrefused with ⟨-, he⟩ | ⟨-, hitems, hlater⟩
  · rcases he with he | he <;> cases he
  · refine ⟨hanswer, hbefore, fun n => ?_, ?_⟩
    · rw [hitems untilConnected_announces]
      simp
    · exact hlater _ overlooks_untilConnected overlooks_stubs untilConnected_ignores _

end World

end ScriptHost
