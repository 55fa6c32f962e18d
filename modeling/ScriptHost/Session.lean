import ScriptHost.HostError
import ScriptHost.Registry

/-!
# Sessions

A session owns one running engine and the site that the engine calls back into.  Every failed engine
call is checked against the site's mailbox (`Context.surface`).

All operations are functions of the session and the host and return both; a session that was closed
stays a value, on which every further operation fails.

* `Session.start`, `Session.close` — the life of a session.
* `Session.setNamedItem`, `Session.eval`, `Session.parseModule` — its use.
* `evalOnce` — start, register items, evaluate, close.
* `Handle` — a dispatch handed out by `parseModule`; its own operations are in `ScriptHost.Handle`.
-/

namespace ScriptHost

/-- The global that the narrow variant stores results in. -/
def resultVariable : String := "x___"

/-- How expressions are evaluated.  The narrow variant does not trust an engine to hand results back:
it assigns the expression to a global and reads that. -/
inductive Variant where
  | narrow
  | wide
deriving DecidableEq, Inhabited

/-- The name of a variant. -/
def Variant.name : Variant → String
  | .narrow => "Narrow"
  | .wide => "Wide"

/-- The variant for hosts with words of the given size. -/
def Variant.ofWordSize (bits : Nat) : Variant := if bits = 32 then .narrow else .wide

/-- One running engine and its site. -/
structure Session (σ : Type) where
  language : String
  engine : Option σ
  site : Option Site
  variant : Variant

/-- A dispatch on the globals of a session, until it is given up. -/
structure Handle (δ : Type) where
  dispatch : Option δ
deriving Inhabited

namespace Session

variable {σ δ : Type}

/-- Starts the engine that is registered for a language. -/
def start (E : Engine σ δ) (registry : Registry σ) (language : String) (variant : Variant)
    (host : Host) : Except HostError (Session σ) × Host :=
  if language.isEmpty then (.error (.invalidName "language"), host)
  else match registry.lookup language with
    | none => (.error (.engineNotFound language), host)
    | some factory =>
      match factory host with
      | (.error e, host) => (.error (.nativeCallFailure e), host)
      | (.ok engine, host) =>
        if (E.capabilities engine).missing ≠ .none then
          let (_, c) := E.close engine ⟨none, host⟩
          (.error (.engineTypeMismatch language (E.capabilities engine).missing), c.host)
        else
          let (engine, c) := E.setSite engine ⟨some {}, host⟩
          match E.initNew engine c with
          | (.error e, engine, c) =>
            let (_, c) := E.close engine c
            (.error (.nativeCallFailure e), c.host)
          | (.ok _, engine, c) => (.ok ⟨language, some engine, c.site, variant⟩, c.host)

/-- Whether the session was closed. -/
def isClosed (s : Session σ) : Bool := s.engine.isNone

/-- The debug text of a session. -/
def debugText (s : Session σ) : String :=
  "InterpreterSession \x7b language: " ++ Registry.quoted s.language ++ ", closed: "
    ++ toString s.isClosed ++ ", variant: " ++ s.variant.name ++ " \x7d"

/-- Gives up the engine and the site.  Later calls do nothing. -/
def close (E : Engine σ δ) (s : Session σ) (host : Host) : Session σ × Host :=
  match s.engine with
  | none => ({ s with site := none }, host)
  | some engine =>
    let (_, c) := E.close engine ⟨s.site, host⟩
    ({ s with engine := none, site := none }, c.host)

/-- The session after a call that left the engine in a state and the site in another. -/
def update (s : Session σ) (engine : σ) (c : Context) : Session σ :=
  { s with engine := some engine, site := c.site }

/-- The failure of an engine call, surfaced. -/
def fail {α : Type} (s : Session σ) (e : NativeError) (engine : σ) (c : Context) :
    Except HostError α × Session σ × Host :=
  let (error, c) := c.surface e
  (.error error, s.update engine c, c.host)

/-- Exposes a value to scripts under a global name.  It has to happen before the text that uses the
name; registering a name again replaces the value for later texts. -/
def setNamedItem (E : Engine σ δ) (s : Session σ) (name : String) (v : Value) (host : Host) :
    Except HostError Unit × Session σ × Host :=
  if name.isEmpty then (.error (.invalidName "named item name"), s, host)
  else match s.engine, s.site with
    | some engine, some site =>
      match E.addNamedItem name engine ⟨some (site.insert name v), host⟩ with
      | (.error e, engine, c) => (.error (.nativeCallFailure e), s.update engine c, c.host)
      | (.ok _, engine, c) => (.ok (), s.update engine c, c.host)
    | _, _ => (.error (.disposed "script session"), s, host)

/-- Puts the engine into the connected state with an empty mailbox, and goes on. -/
def connect {α : Type} (E : Engine σ δ) (s : Session σ) (host : Host)
    (use : σ → Context → Except HostError α × Session σ × Host) :
    Except HostError α × Session σ × Host :=
  match s.engine, s.site with
  | some engine, some site =>
    match E.setState .connected engine ⟨some site, host⟩ with
    | (.error e, engine, c) => (.error (.nativeCallFailure e), s.update engine c, c.host)
    | (.ok _, engine, c) => use engine (c.tell Site.clear)
  | _, _ => (.error (.disposed "script session"), s, host)

/-- Evaluates an expression and hands its value back at once. -/
def evalWide (E : Engine σ δ) (s : Session σ) (text : String) (engine : σ) (c : Context) :
    Except HostError Value × Session σ × Host :=
  match E.parseText text { expression := true } engine c with
  | (.error e, engine, c) => s.fail e engine c
  | (.ok v, engine, c) => (.ok v, s.update engine c, c.host)

/-- Evaluates an expression by way of a global variable. -/
def evalNarrow (E : Engine σ δ) (s : Session σ) (text : String) (engine : σ) (c : Context) :
    Except HostError Value × Session σ × Host :=
  match E.parseText (E.assignment engine resultVariable text) {} engine c with
  | (.error e, engine, c) =>
    let (error, c) := c.surface e
    (.error (error.against text), s.update engine c, c.host)
  | (.ok _, engine, c) =>
    match E.globalDispatch engine c with
    | (.error e, engine, c) => s.fail e engine c
    | (.ok d, engine, c) =>
      match E.getProperty d resultVariable engine c with
      | (.error e, engine, c) =>
        let (error, c) := c.surface e
        let (_, c) := E.release d c
        (.error error, s.update engine c, c.host)
      | (.ok v, engine, c) =>
        let (_, c) := E.release d c
        (.ok v, s.update engine c, c.host)

/-- Evaluates an expression. -/
def eval (E : Engine σ δ) (s : Session σ) (text : String) (host : Host) :
    Except HostError Value × Session σ × Host :=
  s.connect E host fun engine c => match s.variant with
    | .wide => s.evalWide E text engine c
    | .narrow => s.evalNarrow E text engine c

/-- Parses a persistent program and hands out a handle on its globals. -/
def parseModule (E : Engine σ δ) (s : Session σ) (text : String) (host : Host) :
    Except HostError (Handle δ) × Session σ × Host :=
  s.connect E host fun engine c =>
    match E.parseText text { persistent := true } engine c with
    | (.error e, engine, c) => s.fail e engine c
    | (.ok _, engine, c) =>
      match E.globalDispatch engine c with
      | (.error e, engine, c) => s.fail e engine c
      | (.ok d, engine, c) => (.ok ⟨some d⟩, s.update engine c, c.host)

/-- Registers items one after the other, as far as the first that fails. -/
def setNamedItems (E : Engine σ δ) (s : Session σ) (host : Host) :
    List (String × Value) → Except HostError Unit × Session σ × Host
  | [] => (.ok (), s, host)
  | (name, v) :: rest =>
    match s.setNamedItem E name v host with
    | (.error e, s, host) => (.error e, s, host)
    | (.ok _, s, host) => s.setNamedItems E host rest

end Session

/-- Starts a session, registers items, evaluates an expression and closes the session, which it also
does when something fails. -/
def evalOnce {σ δ : Type} (E : Engine σ δ) (registry : Registry σ) (language text : String)
    (items : List (String × Value)) (variant : Variant) (host : Host) :
    Except HostError Value × Host :=
  match Session.start E registry language variant host with
  | (.error e, host) => (.error e, host)
  | (.ok s, host) =>
    match s.setNamedItems E host items with
    | (.error e, s, host) => (.error e, (s.close E host).2)
    | (.ok _, s, host) =>
      let (value, s, host) := s.eval E text host
      (value, (s.close E host).2)

end ScriptHost
