import ScriptHost.Site

/-!
# Engines

An engine parses and runs text, resolves named items through its site, and hands out dispatches: the
means to read globals and to call global functions.  It never returns a structured script error; it
reports the error to the site and fails the call with `NativeError.exception`.

Here an engine is a record of operations over a type `σ` of its states and a type `δ` of its
dispatches, so that a session can be studied for every engine at once.  Every operation also takes
and returns the `Context`: the site, while there is one, and the host with its record of what
happened.

* `Host` — the host's functions, prepared replies, and the record of events.
* `Context` — what an engine can reach outside itself.
* `Action` — a stateful operation of an engine.
* `Engine` — the operations.
-/

namespace ScriptHost

/-- Execution state of an engine. -/
inductive EngineState where
  | uninitialized
  | initialized
  | started
  | connected
  | disconnected
  | closed
deriving DecidableEq, Inhabited

/-- The name of a state. -/
def EngineState.name : EngineState → String
  | .uninitialized => "Uninitialized"
  | .initialized => "Initialized"
  | .started => "Started"
  | .connected => "Connected"
  | .disconnected => "Disconnected"
  | .closed => "Closed"

/-- The state of a name; any other text is the first state. -/
def EngineState.ofName (s : String) : EngineState :=
  [initialized, started, connected, disconnected, closed].find? (·.name == s) |>.getD .uninitialized

/-- Raw failure of a call into an engine. -/
inductive NativeError where
  /-- Script code raised; the details went to the site. -/
  | exception
  /-- A name that stands for nothing, or for nothing that can be called. -/
  | unknownName (name : String)
  /-- A value that cannot cross the boundary. -/
  | conversion (reason : String)
  /-- A call that the engine's state does not admit. -/
  | invalidState (state : EngineState)
  /-- Any other failure. -/
  | failure (text : String)
deriving DecidableEq, Inhabited

/-- The text of a native error. -/
def NativeError.message : NativeError → String
  | .exception => "script raised an exception"
  | .unknownName n => "unknown name `" ++ n ++ "`"
  | .conversion reason => "value conversion failed: " ++ reason
  | .invalidState s => "engine is " ++ s.name
  | .failure text => text

/-- What an engine can do. -/
structure Capabilities where
  parse : Bool
  namedItems : Bool
  dispatch : Bool
deriving DecidableEq, Inhabited

namespace Capabilities

/-- All capabilities; a session needs each of them. -/
def required : Capabilities := ⟨true, true, true⟩

/-- No capability. -/
def none : Capabilities := ⟨false, false, false⟩

/-- The capabilities that a session needs and that are not there. -/
def missing (c : Capabilities) : Capabilities := ⟨!c.parse, !c.namedItems, !c.dispatch⟩

/-- Capabilities as a bit mask. -/
def bits (c : Capabilities) : Nat :=
  c.parse.toNat + 2 * c.namedItems.toNat + 4 * c.dispatch.toNat

/-- Capabilities from a bit mask; other bits are ignored. -/
def ofBits (n : Nat) : Capabilities := ⟨n.testBit 0, n.testBit 1, n.testBit 2⟩

/-- The names of the capabilities. -/
def names (c : Capabilities) : List String :=
  (if c.parse then ["PARSE"] else []) ++ (if c.namedItems then ["NAMED_ITEMS"] else [])
    ++ (if c.dispatch then ["DISPATCH"] else [])

/-- The text that messages show for a set of capabilities. -/
def text (c : Capabilities) : String := "Capabilities(" ++ " | ".intercalate c.names ++ ")"

end Capabilities

/-- How a text is to be parsed. -/
structure ParseFlags where
  /-- Evaluate as an expression and return its value. -/
  expression : Bool := false
  /-- Keep declarations alive after the call. -/
  persistent : Bool := false
deriving DecidableEq, Inhabited

/-- Flags as a bit mask. -/
def ParseFlags.bits (f : ParseFlags) : Nat := 0x20 * f.expression.toNat + 0x40 * f.persistent.toNat

/-- Flags from a bit mask; other bits are ignored. -/
def ParseFlags.ofBits (n : Nat) : ParseFlags := ⟨n.testBit 5, n.testBit 6⟩

/-- What an observer of a host and its engines can see. -/
inductive Event where
  /-- A script called a host function. -/
  | called (name : String) (args : List Value)
  /-- A factory was asked for an engine. -/
  | factory
  /-- An engine was given its site. -/
  | setSite
  | initNew
  | setState (state : EngineState)
  | addNamedItem (name : String)
  /-- Text was parsed, with the mailbox empty or full. -/
  | parseText (code : String) (flags : ParseFlags) (faultHeld : Bool)
  | globalDispatch
  | close
  | getProperty (name : String) (faultHeld : Bool)
  | invokeMethod (name : String) (args : List Value) (faultHeld : Bool)
  | release
  /-- An engine asked the site for an item. -/
  | resolved (item : Option Value)

/-- An entry of the ledger of a host: what became of an engine or of a dispatch, by their numbers. -/
inductive LedgerEntry where
  /-- A factory made an engine. -/
  | made (engine : Nat)
  /-- An engine was called, in whatever way but to be closed. -/
  | called (engine : Nat)
  | closed (engine : Nat)
  /-- An engine handed out a dispatch. -/
  | handedOut (engine dispatch : Nat)
  /-- A dispatch read a global or called a function. -/
  | used (engine dispatch : Nat)
  | released (dispatch : Nat)
deriving DecidableEq

/-- What an engine tells its site during a call. -/
inductive Notification where
  | error (report : ErrorReport)
  | enter
  | leave
  | terminate
  /-- The engine asks for a named item. -/
  | item (name : String)
deriving Inhabited

/-- A prepared answer: notifications to make first, and then a value or a failure. -/
structure Reply where
  notifications : List Notification := []
  answer : Except NativeError Value := .ok .undefined
deriving Inhabited

/-- Prepared answers for each kind of call; a kind without one answers with `undefined`. -/
structure Replies where
  capabilities : Capabilities := .required
  factory : List Reply := []
  initNew : List Reply := []
  setState : List Reply := []
  addNamedItem : List Reply := []
  parseText : List Reply := []
  globalDispatch : List Reply := []
  getProperty : List Reply := []
  invokeMethod : List Reply := []
deriving Inhabited

/-- The host around all engines. -/
structure Host where
  /-- The answer of each host function, by its `id`. -/
  functions : Nat → List Value → Except String Value := fun _ _ => .ok .undefined
  /-- Answers for engines that answer as they were told to. -/
  replies : Replies := {}
  /-- Everything that happened, latest last. -/
  events : Array Event := #[]
  /-- The life of engines and dispatches that are kept account of, latest last. -/
  ledger : List LedgerEntry := []

namespace Host

/-- The host with one more event on record. -/
def record (h : Host) (e : Event) : Host := { h with events := h.events.push e }

/-- A script calls a host function: the call goes on record and is answered. -/
def call (h : Host) (f : HostFunction) (args : List Value) : Except String Value × Host :=
  (h.functions f.id args, h.record (.called f.name args))

end Host

/-- What an engine can reach outside itself: its site, while there is one, and the host. -/
structure Context where
  site : Option Site
  host : Host

namespace Context

/-- Whether there is a site and its mailbox is full. -/
def faultHeld (c : Context) : Bool := (c.site.map Site.hasFault).getD false

/-- Tells the site something; nothing happens once the site is gone. -/
def tell (c : Context) (f : Site → Site) : Context := { c with site := c.site.map f }

/-- Puts an event on record. -/
def record (c : Context) (e : Event) : Context := { c with host := c.host.record e }

/-- Makes one notification. -/
def notify (c : Context) : Notification → Context
  | .error r => c.tell (·.report r)
  | .enter => c.tell Site.enter
  | .leave | .terminate => c
  | .item name => match c.site with
    | some s => c.record (.resolved (s.item? name))
    | none => c

end Context

/-- An operation of an engine with states `σ`: it answers or fails, and changes state and context. -/
abbrev Action (σ α : Type) := σ → Context → Except NativeError α × σ × Context

/-- The operations of an engine with states `σ` and dispatches `δ`. -/
structure Engine (σ δ : Type) where
  /-- The language that the engine runs. -/
  language : σ → String
  capabilities : σ → Capabilities
  state : σ → EngineState
  /-- Gives the engine its site. -/
  setSite : σ → Context → σ × Context
  /-- Prepares an empty script state. -/
  initNew : Action σ Unit
  /-- Moves to a state; moving to the present one does nothing. -/
  setState : EngineState → Action σ Unit
  /-- Announces a global name whose value the site holds. -/
  addNamedItem : String → Action σ Unit
  /-- Parses and runs text. -/
  parseText : String → ParseFlags → Action σ Value
  /-- A statement that assigns the value of an expression to a global variable. -/
  assignment : σ → String → String → String
  /-- A dispatch onto the global scope. -/
  globalDispatch : Action σ δ
  /-- Gives up the site and the interpreter. -/
  close : σ → Context → σ × Context
  /-- Reads a global. -/
  getProperty : δ → String → Action σ Value
  /-- Calls a global function. -/
  invokeMethod : δ → String → List Value → Action σ Value
  /-- Gives up a dispatch. -/
  release : δ → Context → δ × Context

end ScriptHost
