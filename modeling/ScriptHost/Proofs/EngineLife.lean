import ScriptHost.Proofs.Simulation

/-!
# The life of an engine

An engine that was closed has given up its interpreter and its site, waits for no name, and comes back by no call.
What closes it is `close`, though, and not the move to the closed state: an engine that was only moved there answers no
call, and closing it does nothing any more, so that it keeps its interpreter for good.

* `Interpreted.Call` — the calls of an engine.
* `Interpreted.Released`, `Interpreted.Proper` — an engine that gave up everything, and one that did so if it is closed.
* `Interpreted.proper_after` — **whoever closes engines by `close` alone finds them released exactly if closed**.
* `Interpreted.closed_refuses` — a closed engine refuses what is asked of it, and stays as it is.
* `Interpreted.moved_keeps_scripts` — **an engine that was moved to the closed state is never released**.
-/

namespace ScriptHost

namespace Interpreted

/-- A call of an engine. -/
inductive Call where
  | setSite
  | initNew
  | setState (target : EngineState)
  | addNamedItem (name : String)
  | parseText (text : String) (flags : ParseFlags)
  | globalDispatch
  | close

variable {μ χ : Type}

/-- An action of which only the failure is told. -/
def forget {α : Type} (act : Action (State μ) α) : Action (State μ) Unit := fun s c =>
  ((act s c).1.map fun _ => (), (act s c).2)

/-- Makes a call. -/
def make (I : Interpreter μ χ) : Call → Action (State μ) Unit
  | .setSite => fun s c => (.ok (), (engine I).setSite s c)
  | .initNew => (engine I).initNew
  | .setState target => (engine I).setState target
  | .addNamedItem name => (engine I).addNamedItem name
  | .parseText text flags => forget ((engine I).parseText text flags)
  | .globalDispatch => forget (engine I).globalDispatch
  | .close => fun s c => (.ok (), (engine I).close s c)

theorem make_initNew (I : Interpreter μ χ) :
    make I .initNew = whileOpen fun s c => setState .initialized { s with pending := [] } c := rfl

theorem make_addNamedItem (I : Interpreter μ χ) (name : String) : make I (.addNamedItem name) = whileOpen fun s c =>
    (.ok (), if name ∈ s.pending then s else { s with pending := s.pending ++ [name] }, c) := rfl

theorem make_globalDispatch (I : Interpreter μ χ) : make I .globalDispatch = whileOpen fun s c => (.ok (), s, c) := by
  funext s c
  change forget (whileOpen fun s c => (.ok (⟨false, s.holdsSite, s.source⟩ : Dispatch), s, c)) s c = _
  rw [forget, whileOpen, whileOpen]
  split <;> rfl

/-- Makes calls one after the other, whether they fail or not. -/
def makeAll (I : Interpreter μ χ) (calls : List Call) (e : State μ × Context) : State μ × Context :=
  calls.foldl (fun e call => (make I call e.1 e.2).2) e

/-- An engine that holds nothing. -/
structure Released (s : State μ) : Prop where
  scripts : s.holdsScripts = false
  site : s.holdsSite = false
  pending : s.pending = []

/-- An engine that is released if it is closed, and holds its interpreter otherwise. -/
structure Proper (s : State μ) : Prop where
  closed : s.phase = .closed → Released s
  scripts : s.phase ≠ .closed → s.holdsScripts = true

variable {I : Interpreter μ χ} {s : State μ} {c : Context}

theorem Proper.closed_iff (h : Proper s) : s.phase = .closed ↔ Released s := by
  refine ⟨h.closed, fun hreleased => Decidable.byContradiction fun hphase => ?_⟩
  cases hreleased.scripts.symm.trans (h.scripts hphase)

/-! ## Calls that leave an engine open -/

/-- Two states of an engine in one phase, which both hold the interpreter or both do not. -/
structure Held (s t : State μ) : Prop where
  phase : t.phase = s.phase
  scripts : t.holdsScripts = s.holdsScripts

theorem held_run {α : Type} (holds : Bool) (source : Option String) (act : Running μ Failure α) (s : State μ)
    (c : Context) : Held s (run holds source act s c).2.1 := by
  unfold run
  generalize act s.scripts c.host = r
  obtain ⟨f | a, scripts, host⟩ := r <;> exact ⟨rfl, rfl⟩

theorem held_bindPending (s : State μ) (c : Context) : Held s (bindPending I s c).2.1 := by
  unfold bindPending
  split <;> exact ⟨rfl, rfl⟩

theorem held_runText (text : String) (flags : ParseFlags) (s : State μ) (c : Context) :
    Held s (runText I text flags s c).2.1 := by
  unfold runText
  split
  · obtain ⟨hphase, hscripts⟩ := held_run s.holdsSite (some text) (I.evaluate text)
      { s with source := some text } (tell s.holdsSite c Site.enter)
    exact ⟨hphase, hscripts⟩
  · have hrun := held_run s.holdsSite (some text) (I.execute text) { s with source := some text }
      (tell s.holdsSite c Site.enter)
    dsimp only
    generalize run s.holdsSite (some text) (I.execute text) _ _ = r at hrun
    obtain ⟨e | u, s', c'⟩ := r <;> exact ⟨hrun.phase, hrun.scripts⟩

theorem held_parseText (text : String) (flags : ParseFlags) (s : State μ) (c : Context) :
    Held s (parseText I text flags s c).2.1 := by
  by_cases hopen : IsOpen s
  · rw [parseText_isOpen hopen]
    have hbind := held_bindPending (I := I) s c
    generalize bindPending I s c = r at hbind
    obtain ⟨e | u, s', c'⟩ := r
    · exact hbind
    · have hrun := held_runText (I := I) text flags s' c'
      exact ⟨hrun.phase.trans hbind.phase, hrun.scripts.trans hbind.scripts⟩
  · rw [parseText, whileOpen, if_pos (Decidable.not_not.1 hopen)]
    exact ⟨rfl, rfl⟩

/-! ## One call -/

section Guard

variable {α : Type} {act : Action (State μ) α}

theorem whileOpen_closed (h : s.phase = .closed) : whileOpen act s c = (.error (.invalidState .closed), s, c) := by
  rw [whileOpen, if_pos (by simp [h]), h]

theorem whileOpen_open (hphase : s.phase ≠ .closed) (hscripts : s.holdsScripts = true) :
    whileOpen act s c = act s c := by
  rw [whileOpen, if_neg (by simp [hphase, hscripts])]

end Guard

/-- A closed engine refuses every call but to be closed again, and stays as it is.  (It may be given a site.) -/
theorem closed_refuses (h : s.phase = .closed) {call : Call} (hsite : call ≠ .setSite) (hclose : call ≠ .close)
    (hmove : call ≠ .setState .closed) : make I call s c = (.error (.invalidState .closed), s, c) := by
  cases call with
  | setSite => exact absurd rfl hsite
  | close => exact absurd rfl hclose
  | initNew => rw [make_initNew, whileOpen_closed h]
  | addNamedItem name => rw [make_addNamedItem, whileOpen_closed h]
  | globalDispatch => rw [make_globalDispatch, whileOpen_closed h]
  | parseText text flags =>
    change forget (parseText I text flags) s c = _
    rw [forget, parseText, whileOpen_closed h]
    rfl
  | setState target =>
    have hne : s.phase ≠ target := fun heq => hmove (by rw [← heq, h])
    change setState target s c = _
    rw [setState, if_neg hne, if_pos h]

theorem closed_stays (h : s.phase = .closed) {call : Call} (hsite : call ≠ .setSite) :
    (make I call s c).2 = (s, c) := by
  by_cases hclose : call = .close
  · subst hclose
    exact if_pos h
  by_cases hmove : call = .setState .closed
  · subst hmove
    change (setState .closed s c).2 = _
    rw [setState, if_pos h]
  rw [closed_refuses h hsite hclose hmove]

/-- What one call makes of an open engine: `close` releases it, `setState` may only move it to the closed state, and
every other call leaves it open. -/
inductive Fate : Call → State μ → Prop
  | released {t : State μ} (hphase : t.phase = .closed) (h : Released t) : Fate .close t
  | moved {t : State μ} (hphase : t.phase = .closed) (hscripts : t.holdsScripts = true) : Fate (.setState .closed) t
  | kept {call : Call} {t : State μ} (hclose : call ≠ .close) (hmove : call ≠ .setState .closed)
    (hphase : t.phase ≠ .closed) (hscripts : t.holdsScripts = true) : Fate call t

theorem fate_make (hphase : s.phase ≠ .closed) (hscripts : s.holdsScripts = true) (call : Call) (c : Context) :
    Fate call (make I call s c).2.1 := by
  cases call with
  | close =>
    have hclose : (make I .close s c).2.1 = (close s c).1 := rfl
    rw [hclose, close, if_neg hphase]
    exact .released rfl ⟨rfl, rfl, rfl⟩
  | setState target =>
    have hmake : (make I (.setState target) s c).2.1 = (setState target s c).2.1 := rfl
    rw [hmake, setState]
    by_cases hsame : s.phase = target
    · rw [if_pos hsame]
      exact .kept (by simp) (fun h => hphase (hsame.trans (Call.setState.inj h))) hphase hscripts
    · rw [if_neg hsame, if_neg hphase]
      by_cases hclosed : target = .closed
      · subst hclosed
        exact .moved rfl hscripts
      · exact .kept (by simp) (fun h => hclosed (Call.setState.inj h)) hclosed hscripts
  | setSite => exact .kept (by simp) (by simp) hphase hscripts
  | initNew =>
    rw [make_initNew, whileOpen_open hphase hscripts, setState]
    split
    · exact .kept (by simp) (by simp) hphase hscripts
    · exact .kept (by simp) (by simp) (by simp) hscripts
  | addNamedItem name =>
    rw [make_addNamedItem, whileOpen_open hphase hscripts]
    dsimp only
    split <;> exact .kept (by simp) (by simp) hphase hscripts
  | parseText text flags =>
    have hheld := held_parseText (I := I) text flags s c
    have hopen : (make I (.parseText text flags) s c).2.1.phase ≠ .closed := fun hclosed =>
      hphase (hheld.phase.symm.trans hclosed)
    exact .kept (by simp) (by simp) hopen (hheld.scripts.trans hscripts)
  | globalDispatch =>
    rw [make_globalDispatch, whileOpen_open hphase hscripts]
    exact .kept (by simp) (by simp) hphase hscripts

/-- What one call does to an engine that is released if closed: it is again, if it was not moved to the closed state
and got no site there. -/
theorem proper_make (h : Proper s) {call : Call} (hmove : call ≠ .setState .closed)
    (hsite : s.phase = .closed → call ≠ .setSite) (c : Context) :
    Proper (make I call s c).2.1 ∧ ((make I call s c).2.1.phase = .closed ↔ s.phase = .closed ∨ call = .close) := by
  by_cases hphase : s.phase = .closed
  · rw [closed_stays hphase (hsite hphase)]
    exact ⟨h, by simp [hphase]⟩
  · have hfate := fate_make (I := I) hphase (h.scripts hphase) call c
    generalize (make I call s c).2.1 = t at hfate
    cases hfate with
    | released hclosed hreleased => exact ⟨⟨fun _ => hreleased, fun hopen => absurd hclosed hopen⟩, by simp [hclosed]⟩
    | moved => exact absurd rfl hmove
    | kept hclose _ hopen hscripts =>
      exact ⟨⟨fun hclosed => absurd hclosed hopen, fun _ => hscripts⟩, by simp [hclose, hopen, hphase]⟩

/-! ## Every run of calls -/

/-- No call gives a site to an engine that was closed by one before. -/
def SiteBeforeClose (calls : List Call) : Prop := calls.Pairwise fun a b => a = .close → b ≠ .setSite

theorem proper_makeAll (h : Proper s) {calls : List Call} (hmove : .setState .closed ∉ calls)
    (hsites : SiteBeforeClose calls) (hsite : s.phase = .closed → .setSite ∉ calls) (c : Context) :
    Proper (makeAll I calls (s, c)).1 ∧
      ((makeAll I calls (s, c)).1.phase = .closed ↔ s.phase = .closed ∨ .close ∈ calls) := by
  induction calls generalizing s c with
  | nil => exact ⟨h, by simp [makeAll]⟩
  | cons call calls ih =>
    rw [List.mem_cons, not_or] at hmove
    obtain ⟨hfirst, hlater⟩ := List.pairwise_cons.1 hsites
    obtain ⟨hafter, hclosed⟩ := proper_make (I := I) h (fun heq => hmove.1 heq.symm)
      (fun hphase heq => hsite hphase (heq ▸ List.mem_cons_self)) c
    obtain ⟨hall, hiff⟩ := ih hafter hmove.2 hlater (fun hphase hmem => by
      obtain hphase | hclose := hclosed.1 hphase
      · exact hsite hphase (List.mem_cons_of_mem _ hmem)
      · exact hfirst .setSite hmem hclose rfl) (make I call s c).2.2
    refine ⟨hall, hiff.trans ?_⟩
    rw [hclosed, List.mem_cons, or_assoc, @eq_comm _ Call.close call]

/-- **An engine is released exactly if it is closed**, after any calls that close it by `close` alone and give it its
site before. -/
theorem proper_after (I : Interpreter μ χ) (c : Context) {calls : List Call} (hmove : .setState .closed ∉ calls)
    (hsites : SiteBeforeClose calls) :
    ((makeAll I calls (State.new I, c)).1.phase = .closed ↔ Released (makeAll I calls (State.new I, c)).1) ∧
      ((makeAll I calls (State.new I, c)).1.phase = .closed ↔ .close ∈ calls) := by
  have hopen : (State.new I).phase ≠ .closed := by simp [State.new]
  have hnew : Proper (State.new I) := ⟨fun hclosed => absurd hclosed hopen, fun _ => rfl⟩
  obtain ⟨hproper, hclosed⟩ := proper_makeAll (I := I) hnew hmove hsites (fun hclosed => absurd hclosed hopen) c
  exact ⟨hproper.closed_iff, hclosed.trans (or_iff_right hopen)⟩

/-- What is in the closed state and holds its interpreter does so after any calls. -/
theorem closed_keeps_scripts (hphase : s.phase = .closed) (hscripts : s.holdsScripts = true) (calls : List Call)
    (c : Context) :
    (makeAll I calls (s, c)).1.phase = .closed ∧ (makeAll I calls (s, c)).1.holdsScripts = true := by
  induction calls generalizing s c with
  | nil => exact ⟨hphase, hscripts⟩
  | cons call calls ih =>
    by_cases hsite : call = .setSite
    · subst hsite
      rw [makeAll, List.foldl_cons]
      exact ih (s := { s with holdsSite := true }) hphase hscripts c
    · have hstays := closed_stays (I := I) (c := c) hphase hsite
      rw [makeAll, List.foldl_cons, hstays]
      exact ih hphase hscripts c

/-- **An engine that is moved to the closed state is never released**, whatever is asked of it then, and be it to be
closed. -/
theorem moved_keeps_scripts (h : Proper s) (hphase : s.phase ≠ .closed) (calls : List Call) (c : Context) :
    (makeAll I (.setState .closed :: calls) (s, c)).1.phase = .closed ∧
      (makeAll I (.setState .closed :: calls) (s, c)).1.holdsScripts = true := by
  have hfate := fate_make (I := I) hphase (h.scripts hphase) (.setState .closed) c
  rw [makeAll, List.foldl_cons]
  generalize (make I (.setState .closed) s c).2 = e at hfate
  cases hfate with
  | moved hclosed hscripts => exact closed_keeps_scripts hclosed hscripts calls e.2
  | kept _ hmove => exact absurd rfl hmove

end Interpreted

end ScriptHost
