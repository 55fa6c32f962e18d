import ScriptHost.Engine

/-!
# The registry of engines

A registry maps language names to factories.  Names that differ only in the case of ASCII letters are
the same name; it is kept in lower case.
-/

namespace ScriptHost

/-- Makes an engine in its first state, or fails. -/
abbrev Factory (σ : Type) := Host → Except NativeError σ × Host

/-- Factories under language names, which are in lower case and in increasing order. -/
structure Registry (σ : Type) where
  entries : List (String × Factory σ) := []

namespace Registry

variable {σ : Type}

/-- A registry without engines. -/
def empty : Registry σ := {}

/-- Entries with one more, in the place of an equal name. -/
def insertEntry (name : String) (f : Factory σ) :
    List (String × Factory σ) → List (String × Factory σ)
  | [] => [(name, f)]
  | (k, g) :: rest =>
    if name = k then (name, f) :: rest
    else if name < k then (name, f) :: (k, g) :: rest
    else (k, g) :: insertEntry name f rest

/-- The form under which a language name is kept. -/
def key (language : String) : String := language.map Char.toLower

/-- Registers an engine, or replaces the one of that name. -/
def register (r : Registry σ) (language : String) (f : Factory σ) : Registry σ :=
  ⟨insertEntry (key language) f r.entries⟩

/-- The factory of a language. -/
def lookup (r : Registry σ) (language : String) : Option (Factory σ) :=
  r.entries.lookup (key language)

/-- The registered names, in increasing order. -/
def languages (r : Registry σ) : List String := r.entries.map (·.1)

/-- A text between double quotes, as debug texts show it. -/
def quoted (s : String) : String := "\"" ++ s ++ "\""

/-- The debug text of a registry. -/
def debugText (r : Registry σ) : String :=
  "EngineRegistry \x7b languages: [" ++ ", ".intercalate (r.languages.map quoted) ++ "] \x7d"

end Registry

end ScriptHost
