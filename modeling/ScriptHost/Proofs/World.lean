import ScriptHost.Handle

/-!
# Worlds of sessions and handles

A program that uses the library holds any number of sessions and of handles, and calls them in any
order.  A `World` is what it holds, an `Operation` is one call, and `World.run` is a whole history of
calls.  Sessions and handles are numbered in the order in which they were made; one that was closed
or dropped keeps its number and stays as the closed value that it has become.

* `World.perform` — one operation: its answer, and the world after it.
* `World.run` — the world after a history.
* `World.fresh` — the world before the first operation.
-/

namespace ScriptHost

/-- Everything that a program holds. -/
structure World (σ δ : Type) where
  sessions : List (Session σ) := []
  /-- The handles, each with the number of the session that it came from. -/
  handles : List (Nat × Handle δ) := []
  host : Host

/-- A call of the library.  To drop a session or a handle is to close it. -/
inductive Operation where
  | start (language : String) (variant : Variant)
  | setNamedItem (session : Nat) (name : String) (value : Value)
  | eval (session : Nat) (text : String)
  | parseModule (session : Nat) (text : String)
  | invoke (handle : Nat) (name : String) (args : List Value)
  | get (handle : Nat) (name : String)
  | closeHandle (handle : Nat)
  | closeSession (session : Nat)
  | evalOnce (language text : String) (items : List (String × Value)) (variant : Variant)

/-- What an operation answers: an error, or success, perhaps with a value. -/
abbrev Outcome := Except HostError (Option Value)

namespace World

variable {σ δ : Type}

/-- The world before the first operation, with an empty ledger. -/
def fresh (host : Host) : World σ δ := { host := { host with ledger := [] } }

/-- The world after a call of a session. -/
def withSession (w : World σ δ) (i : Nat) (s : Session σ) (host : Host) : World σ δ :=
  { w with sessions := w.sessions.set i s, host }

/-- Calls a session.  A session that was never made cannot be called. -/
def onSession {α : Type} (w : World σ δ) (i : Nat)
    (call : Session σ → Host → Except HostError α × Session σ × Host) (value : α → Option Value) :
    Outcome × World σ δ :=
  match w.sessions[i]? with
  | none => (.ok none, w)
  | some s =>
    let (answer, s, host) := call s w.host
    (answer.map value, w.withSession i s host)

/-- Calls a handle, together with the session that it came from. -/
def onHandle (w : World σ δ) (h : Nat)
    (call : Handle δ → Session σ → Host → Except HostError Value × Session σ × Host) :
    Outcome × World σ δ :=
  match w.handles[h]? with
  | none => (.ok none, w)
  | some (i, handle) => w.onSession i (call handle) some

variable (E : Engine σ δ) (registry : Registry σ)

/-- Starts a session. -/
def start (w : World σ δ) (language : String) (variant : Variant) : Outcome × World σ δ :=
  match Session.start E registry language variant w.host with
  | (.error e, host) => (.error e, { w with host })
  | (.ok s, host) => (.ok none, { w with sessions := w.sessions ++ [s], host })

/-- Parses a module; its handle is kept. -/
def parseModule (w : World σ δ) (i : Nat) (text : String) : Outcome × World σ δ :=
  match w.sessions[i]? with
  | none => (.ok none, w)
  | some s => match s.parseModule E text w.host with
    | (.error e, s, host) => (.error e, w.withSession i s host)
    | (.ok handle, s, host) =>
      (.ok none, { w.withSession i s host with handles := w.handles ++ [(i, handle)] })

/-- Closes a handle. -/
def closeHandle (w : World σ δ) (h : Nat) : World σ δ :=
  match w.handles[h]? with
  | none => w
  | some (i, handle) =>
    let (handle, host) := handle.close E w.host
    { w with handles := w.handles.set h (i, handle), host }

/-- Closes a session. -/
def closeSession (w : World σ δ) (i : Nat) : World σ δ :=
  match w.sessions[i]? with
  | none => w
  | some s =>
    let (s, host) := s.close E w.host
    w.withSession i s host

/-- One operation. -/
def perform (w : World σ δ) : Operation → Outcome × World σ δ
  | .start language variant => w.start E registry language variant
  | .setNamedItem i name value =>
    w.onSession i (fun s host => s.setNamedItem E name value host) fun _ => none
  | .eval i text => w.onSession i (fun s host => s.eval E text host) some
  | .parseModule i text => w.parseModule E i text
  | .invoke h name args => w.onHandle h fun handle s host => handle.invoke E s name args host
  | .get h name => w.onHandle h fun handle s host => handle.get E s name host
  | .closeHandle h => (.ok none, w.closeHandle E h)
  | .closeSession i => (.ok none, w.closeSession E i)
  | .evalOnce language text items variant =>
    let (answer, host) := ScriptHost.evalOnce E registry language text items variant w.host
    (answer.map some, { w with host })

/-- The world after a history of operations. -/
def run (w : World σ δ) (history : List Operation) : World σ δ :=
  history.foldl (fun w op => (w.perform E registry op).2) w

@[simp] theorem run_nil (w : World σ δ) : w.run E registry [] = w := rfl

@[simp] theorem run_cons (w : World σ δ) (op : Operation) (history : List Operation) :
    w.run E registry (op :: history) = (w.perform E registry op).2.run E registry history := rfl

theorem run_append (w : World σ δ) (history later : List Operation) :
    w.run E registry (history ++ later) = (w.run E registry history).run E registry later :=
  List.foldl_append

theorem set_of_getElem? {α : Type} {xs : List α} {k : Nat} {a : α} (h : xs[k]? = some a) :
    xs.set k a = xs := by
  obtain ⟨hk, rfl⟩ := List.getElem?_eq_some_iff.1 h
  exact List.set_getElem_self hk

theorem withSession_self {w : World σ δ} {i : Nat} {s : Session σ} (h : w.sessions[i]? = some s) :
    w.withSession i s w.host = w := by
  rw [withSession, set_of_getElem? h]

@[simp] theorem length_withSession (w : World σ δ) (i : Nat) (s : Session σ) (host : Host) :
    (w.withSession i s host).sessions.length = w.sessions.length := List.length_set

end World

end ScriptHost
