import ScriptHost.Engine

/-!
# Engines over an interpreter

An interpreter runs texts of one language and knows nothing of sites and of the order in which a host
may call.  `Interpreted.engine` makes an engine of it: it keeps the state, the names that were
announced and are not bound yet, and the latest text, and reports to the site what scripts raise.

* `Interpreter` — what is asked of a language.
* `Interpreted.State` — an engine; its dispatches share the state of the interpreter.
* `Interpreted.bindPending` — binds announced names, in order, as far as the first that fails.
-/

namespace ScriptHost

/-- Why an interpreter did not answer. -/
inductive Failure where
  /-- The script raised an error that it did not catch; the report has no source text yet. -/
  | raised (report : ErrorReport)
  | refused (e : NativeError)

/-- A computation on the state `μ` of an interpreter and on the host. -/
abbrev Running (μ ε α : Type) := μ → Host → Except ε α × μ × Host

/-- What an engine asks of an interpreter with states `μ` and prepared calls `χ`. -/
structure Interpreter (μ χ : Type) where
  language : String
  /-- The state before any text has run. -/
  initial : μ
  /-- A statement that assigns the value of an expression to a global variable. -/
  assignment : String → String → String
  /-- Makes a value of the host a global variable. -/
  bind : String → Value → Running μ NativeError Unit
  /-- Runs a text and answers its value. -/
  evaluate : String → Running μ Failure Value
  /-- Runs a text only for its effects. -/
  execute : String → Running μ Failure Unit
  /-- Reads a global. -/
  global : String → Running μ Failure Value
  /-- Finds a global function and converts arguments for it. -/
  prepare : String → List Value → Running μ Failure χ
  /-- Makes a call that was prepared. -/
  call : χ → Running μ Failure Value

namespace Interpreted

/-- An engine over an interpreter. -/
structure State (μ : Type) where
  /-- The state of the interpreter, which dispatches share. -/
  scripts : μ
  /-- The engine still holds the interpreter; dispatches may hold it longer. -/
  holdsScripts : Bool := true
  holdsSite : Bool := false
  phase : EngineState := .uninitialized
  /-- Announced names that are not bound yet, each one once, in order of announcement. -/
  pending : List String := []
  /-- The latest text. -/
  source : Option String := none

/-- A dispatch onto the globals. -/
structure Dispatch where
  released : Bool := false
  /-- The engine had a site when the dispatch was made. -/
  holdsSite : Bool
  /-- The latest text at that time. -/
  source : Option String

variable {μ χ : Type}

/-- A new engine. -/
def State.new (I : Interpreter μ χ) : State μ := { scripts := I.initial }

/-- Tells the site something, if there is one for the teller. -/
def tell (holds : Bool) (c : Context) (f : Site → Site) : Context := if holds then c.tell f else c

/-- The failure of a call; what was raised goes to the site. -/
def surface (holds : Bool) (source : Option String) (c : Context) :
    Failure → NativeError × Context
  | .raised report =>
    (.exception, tell holds c fun site => site.report { report with sourceText := source })
  | .refused e => (e, c)

/-- Runs a computation of the interpreter. -/
def run {α : Type} (holds : Bool) (source : Option String) (act : Running μ Failure α)
    (s : State μ) (c : Context) : Except NativeError α × State μ × Context :=
  let (answer, scripts, host) := act s.scripts c.host
  let s := { s with scripts }
  let c := { c with host }
  match answer with
  | .ok v => (.ok v, s, c)
  | .error f =>
    let (e, c) := surface holds source c f
    (.error e, s, c)

/-- Makes a call only if the engine is open. -/
def whileOpen {α : Type} (act : Action (State μ) α) : Action (State μ) α := fun s c =>
  if s.phase = .closed || !s.holdsScripts then (.error (.invalidState s.phase), s, c) else act s c

/-- Moves to a state; nothing leaves the closed state. -/
def setState (target : EngineState) : Action (State μ) Unit := fun s c =>
  if s.phase = target then (.ok (), s, c)
  else if s.phase = .closed then (.error (.invalidState .closed), s, c)
  else (.ok (), { s with phase := target }, c)

/-- Binds names to the values that the site holds, one after the other.  A name that fails stays
pending, and so do all after it. -/
def bindNames (I : Interpreter μ χ) (site : Site) :
    List String → μ → Host → Except NativeError Unit × List String × μ × Host
  | [], scripts, host => (.ok (), [], scripts, host)
  | name :: rest, scripts, host =>
    match site.item? name with
    | none => (.error (.unknownName name), name :: rest, scripts, host)
    | some v => match I.bind name v scripts host with
      | (.error e, scripts, host) => (.error e, name :: rest, scripts, host)
      | (.ok _, scripts, host) => bindNames I site rest scripts host

/-- Binds the pending names; without a site nothing happens. -/
def bindPending (I : Interpreter μ χ) : Action (State μ) Unit := fun s c =>
  match if s.holdsSite then c.site else none with
  | none => (.ok (), s, c)
  | some site =>
    let (answer, pending, scripts, host) := bindNames I site s.pending s.scripts c.host
    (answer, { s with pending, scripts }, { c with host })

/-- Runs a text after all announced names are bound. -/
def parseText (I : Interpreter μ χ) (text : String) (flags : ParseFlags) : Action (State μ) Value :=
  whileOpen fun s c =>
    match bindPending I s c with
    | (.error e, s, c) => (.error e, s, c)
    | (.ok _, s, c) =>
      let s := { s with source := some text }
      let c := tell s.holdsSite c Site.enter
      if flags.expression then run s.holdsSite s.source (I.evaluate text) s c
      else match run s.holdsSite s.source (I.execute text) s c with
        | (.ok _, s, c) => (.ok .undefined, s, c)
        | (.error e, s, c) => (.error e, s, c)

/-- Makes a call of a dispatch unless it was released. -/
def whileHeld {α : Type} (d : Dispatch) (act : Action (State μ) α) : Action (State μ) α :=
  fun s c => if d.released then (.error (.invalidState .closed), s, c) else act s c

/-- Calls a global function. -/
def invoke (I : Interpreter μ χ) (d : Dispatch) (name : String) (args : List Value) :
    Action (State μ) Value :=
  whileHeld d fun s c =>
    match run d.holdsSite d.source (I.prepare name args) s c with
    | (.error e, s, c) => (.error e, s, c)
    | (.ok prepared, s, c) =>
      run d.holdsSite d.source (I.call prepared) s (tell d.holdsSite c Site.enter)

/-- Gives up the interpreter and the site. -/
def close (s : State μ) (c : Context) : State μ × Context :=
  if s.phase = .closed then (s, c)
  else
    ({ s with phase := .closed, pending := [], holdsScripts := false, holdsSite := false }, c)

/-- The engine over an interpreter. -/
def engine (I : Interpreter μ χ) : Engine (State μ) Dispatch where
  language _ := I.language
  capabilities _ := .required
  state s := s.phase
  setSite s c := ({ s with holdsSite := true }, c)
  initNew := whileOpen fun s c => setState .initialized { s with pending := [] } c
  setState := setState
  addNamedItem name := whileOpen fun s c =>
    (.ok (), if name ∈ s.pending then s else { s with pending := s.pending ++ [name] }, c)
  parseText := parseText I
  assignment _ := I.assignment
  globalDispatch := whileOpen fun s c =>
    (.ok { holdsSite := s.holdsSite, source := s.source }, s, c)
  close := close
  getProperty d name := whileHeld d (run d.holdsSite d.source (I.global name))
  invokeMethod := invoke I
  release d c := ({ d with released := true }, c)

end Interpreted

end ScriptHost
