import ScriptHost.Registry

/-!
# An engine that answers as it was told to

A rehearsed engine runs no scripts.  It records every call and answers from the replies that the host
has prepared for that kind of call, in order; where none is left it answers `undefined`.  Before a
reply's answer, its notifications are made.  Such engines show what a session asks of any engine.
-/

namespace ScriptHost.Engine.Rehearsed

/-- The first of some prepared replies, and the others. -/
def next : List Reply → Reply × List Reply
  | [] => ({}, [])
  | r :: rest => (r, rest)

/-- Makes the notifications of a reply. -/
def perform (c : Context) (r : Reply) : Context := r.notifications.foldl Context.notify c

/-- Records a call, takes a reply for it and acts on the reply. -/
def answer (event : Event) (queue : Replies → List Reply) (store : Replies → List Reply → Replies)
    (c : Context) : Except NativeError Value × Context :=
  let c := c.record event
  let (r, rest) := next (queue c.host.replies)
  let c := { c with host := { c.host with replies := store c.host.replies rest } }
  (r.answer, perform c r)

/-- An action that records a call and answers as prepared; `keep` is the state after a success. -/
def act {α : Type} (event : Event) (queue : Replies → List Reply)
    (store : Replies → List Reply → Replies) (result : Value → α)
    (keep : EngineState → EngineState := id) : Action EngineState α := fun s c =>
  match answer event queue store c with
  | (.ok v, c) => (.ok (result v), keep s, c)
  | (.error e, c) => (.error e, s, c)

/-- Makes a rehearsed engine, unless the prepared reply refuses. -/
def factory : Factory EngineState := fun host =>
  match answer .factory Replies.factory (fun rs q => { rs with factory := q }) ⟨none, host⟩ with
  | (.ok _, c) => (.ok .uninitialized, c.host)
  | (.error e, c) => (.error e, c.host)

/-- The operations of a rehearsed engine with the given capabilities. -/
def engine (capabilities : Capabilities) : Engine EngineState Unit where
  language _ := "stub"
  capabilities _ := capabilities
  state s := s
  setSite s c := (s, c.record .setSite)
  initNew := act .initNew Replies.initNew (fun rs q => { rs with initNew := q }) (fun _ => ())
    fun _ => .initialized
  setState target := act (.setState target) Replies.setState
    (fun rs q => { rs with setState := q }) (fun _ => ()) fun _ => target
  addNamedItem name := act (.addNamedItem name) Replies.addNamedItem
    (fun rs q => { rs with addNamedItem := q }) fun _ => ()
  parseText code flags s c := act (.parseText code flags c.faultHeld) Replies.parseText
    (fun rs q => { rs with parseText := q }) id id s c
  assignment _ name expression := name ++ ":=" ++ expression
  globalDispatch := act .globalDispatch Replies.globalDispatch
    (fun rs q => { rs with globalDispatch := q }) fun _ => ()
  close _ c := (.closed, { c.record .close with site := none })
  getProperty _ name s c := act (.getProperty name c.faultHeld) Replies.getProperty
    (fun rs q => { rs with getProperty := q }) id id s c
  invokeMethod _ name args s c := act (.invokeMethod name args c.faultHeld) Replies.invokeMethod
    (fun rs q => { rs with invokeMethod := q }) id id s c
  release _ c := ((), c.record .release)

end ScriptHost.Engine.Rehearsed
