import ScriptHost.Fault
import ScriptHost.Value

/-!
# The host callback site

The site is what an engine sees of its host: a table of named items and a mailbox that holds at most
one fault.  Engines write the mailbox when a script fails, the session reads and empties it right
after the failing call.  It is a slot and not a queue: only the latest fault matters.
-/

namespace ScriptHost

/-- Named items, and the latest fault that was not yet read. -/
structure Site where
  items : List (String × Value) := []
  fault : Option Fault := none
deriving Inhabited

namespace Site

/-- The site with an item registered, in place of an earlier one of that name. -/
def insert (s : Site) (name : String) (v : Value) : Site :=
  { s with items := Value.insertEntry name v s.items }

/-- The item of a name. -/
def item? (s : Site) (name : String) : Option Value := s.items.lookup name

/-- The names of all items, in increasing order. -/
def names (s : Site) : List String := s.items.map (·.1)

/-- The site with an empty mailbox. -/
def clear (s : Site) : Site := { s with fault := none }

/-- Whether the mailbox holds a fault. -/
def hasFault (s : Site) : Bool := s.fault.isSome

/-- An engine reports a script error; an earlier fault is overwritten. -/
def report (s : Site) (r : ErrorReport) : Site := { s with fault := some r.fault }

/-- An engine is about to run script code: a fault left from before does not belong to it. -/
def enter (s : Site) : Site := s.clear

/-- Reads and empties the mailbox. -/
def take (s : Site) : Option Fault × Site := (s.fault, s.clear)

end Site

end ScriptHost
