import ScriptHost.Session

/-!
# Handles

A handle calls functions and reads globals of the session it came from.  It does not keep the session
alive: once the session is closed, its calls fail.
-/

namespace ScriptHost.Handle

variable {σ δ : Type}

/-- Whether the handle was given up. -/
def isClosed (h : Handle δ) : Bool := h.dispatch.isNone

/-- The debug text of a handle on a session. -/
def debugText (h : Handle δ) (s : Session σ) : String :=
  "ParsedHandle \x7b closed: " ++ toString h.isClosed ++ ", session_alive: "
    ++ toString s.site.isSome ++ " \x7d"

/-- Checks what every call of a handle needs, empties the mailbox and makes the call. -/
def use (what : String) (h : Handle δ) (s : Session σ) (name : String) (host : Host)
    (call : δ → Action σ Value) : Except HostError Value × Session σ × Host :=
  match h.dispatch with
  | none => (.error (.disposed "parsed handle"), s, host)
  | some d =>
    if name.isEmpty then (.error (.invalidName what), s, host)
    else match s.engine, s.site with
      | some engine, some site =>
        match call d engine ⟨some site.clear, host⟩ with
        | (.error e, engine, c) => s.fail e engine c
        | (.ok v, engine, c) => (.ok v, s.update engine c, c.host)
      | _, _ => (.error (.disposed "script session"), s, host)

/-- Calls a global function. -/
def invoke (E : Engine σ δ) (h : Handle δ) (s : Session σ) (name : String) (args : List Value)
    (host : Host) : Except HostError Value × Session σ × Host :=
  use "method name" h s name host fun d => E.invokeMethod d name args

/-- Reads a global. -/
def get (E : Engine σ δ) (h : Handle δ) (s : Session σ) (name : String) (host : Host) :
    Except HostError Value × Session σ × Host :=
  use "property name" h s name host fun d => E.getProperty d name

/-- Gives up the dispatch.  Later calls do nothing. -/
def close (E : Engine σ δ) (h : Handle δ) (host : Host) : Handle δ × Host :=
  match h.dispatch with
  | none => (h, host)
  | some d =>
    let (_, c) := E.release d ⟨none, host⟩
    (⟨none⟩, c.host)

end ScriptHost.Handle
