import ScriptHost.Value

/-!
# Template delimiters

A template marks code by delimiters.  Each of the three kinds of tag has a regular expression with
one group, the code; a setting that is absent or empty leaves the present expression as it is.
-/

namespace ScriptHost.Template

/-- Regular expressions that replace delimiters. -/
structure Settings where
  interpolate : Option String := none
  evaluate : Option String := none
  escape : Option String := none
deriving DecidableEq, Inhabited

namespace Settings

/-- The settings that replace something, in the order in which they are applied. -/
def entries (s : Settings) : List (String × String) :=
  [("interpolate", s.interpolate), ("evaluate", s.evaluate), ("escape", s.escape)].filterMap
    fun (key, v) => (v.filter (!·.isEmpty)).map (key, ·)

/-- Whether no setting replaces anything. -/
def isEmpty (s : Settings) : Bool := s.entries.isEmpty

/-- The settings as a value for scripts. -/
def toValue (s : Settings) : Value :=
  .ofEntries (s.entries.map fun (key, pattern) => (key, .text pattern))

/-- These settings, and where one is absent the other's. -/
def orElse (s t : Settings) : Settings :=
  ⟨s.interpolate.or t.interpolate, s.evaluate.or t.evaluate, s.escape.or t.escape⟩

end Settings

end ScriptHost.Template
