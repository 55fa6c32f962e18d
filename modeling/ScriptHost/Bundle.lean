/-!
# Bundles

A bundle is the text of one program that stores compiled templates under a namespace: a guard for
each segment of the namespace, and one entry for each template, inside a function that is applied to
the global object.

* `Bundle.new` — a bundle without templates, unless the namespace is not a dotted identifier.
* `Bundle.push`, `Bundle.finish` — one more entry; the complete text.
* `templateName` — the name under which a file's template is stored.
-/

namespace ScriptHost

/-- Why a bundle cannot be made. -/
inductive BundleError where
  | invalidNamespace (ns segment : String)
  | noTemplateName (path : String)
deriving DecidableEq, Inhabited

/-- The text of a bundle error. -/
def BundleError.message : BundleError → String
  | invalidNamespace ns segment =>
    "invalid namespace `" ++ ns ++ "`: segment `" ++ segment ++ "` is not an identifier"
  | noTemplateName path => "cannot derive a template name from `" ++ path ++ "`"

/-! ## Text pieces -/

/-- The parts of a text between occurrences of a character; there is at least one. -/
def splitAll (sep : Char) : List Char → List (List Char)
  | [] => [[]]
  | c :: rest =>
    if c = sep then [] :: splitAll sep rest
    else match splitAll sep rest with
      | [] => [[c]]
      | part :: parts => (c :: part) :: parts

/-- Letters of the alphabet, the underscore and the dollar sign. -/
def isIdentifierStart (c : Char) : Bool := c.isAlpha || c == '_' || c == '$'

/-- What may follow in an identifier. -/
def isIdentifierPart (c : Char) : Bool := isIdentifierStart c || c.isDigit

/-- Whether a text is an identifier. -/
def isIdentifier : List Char → Bool
  | [] => false
  | c :: rest => isIdentifierStart c && rest.all isIdentifierPart

/-- A character inside a text between double quotes. -/
def quoteChar : Char → List Char
  | '"' => ['\\', '"']
  | '\\' => ['\\', '\\']
  | '\n' => ['\\', 'n']
  | '\r' => ['\\', 'r']
  | c => [c]

/-- A text inside double quotes. -/
def quote (s : String) : String := String.ofList (s.toList.flatMap quoteChar)

/-! ## Bundles -/

/-- The namespace used when none is given. -/
def defaultNamespace : String := "JST"

/-- A bundle under construction. -/
structure Bundle where
  ns : String
  body : String
  count : Nat
deriving Inhabited

namespace Bundle

/-- The guard that makes sure that a namespace object is there. -/
def guardLine (path : String) : String :=
  "global." ++ path ++ " = global." ++ path ++ " || \x7b\x7d;\n"

/-- The guards of a dotted path, or its first segment that is not an identifier. -/
def guards (path : List Char) : List (List Char) → Except String String
  | [] => .ok ""
  | segment :: rest =>
    if isIdentifier segment then
      let path := if path.isEmpty then segment else path ++ '.' :: segment
      (guardLine (String.ofList path) ++ ·) <$> guards path rest
    else .error (String.ofList segment)

/-- An empty bundle for a dotted namespace; an empty one stands for `defaultNamespace`. -/
def new (ns : String) : Except BundleError Bundle :=
  let ns := if ns.isEmpty then defaultNamespace else ns
  match guards [] (splitAll '.' ns.toList) with
  | .ok body => .ok ⟨ns, body, 0⟩
  | .error segment => .error (.invalidNamespace ns segment)

/-- The entry of a template. -/
def entry (ns name compiled : String) : String :=
  "global." ++ ns ++ "[\"" ++ quote name ++ "\"] = " ++ compiled ++ ";\n"

/-- A bundle with one more template. -/
def push (b : Bundle) (name compiled : String) : Bundle :=
  { b with body := b.body ++ entry b.ns name compiled, count := b.count + 1 }

/-- Whether the bundle holds no template. -/
def isEmpty (b : Bundle) : Bool := b.count == 0

/-- The complete text. -/
def finish (b : Bundle) : String :=
  "(function(global) \x7b\n" ++ b.body ++ "\n\x7d)(this);"

end Bundle

/-! ## Template names -/

/-- The components of a path: parts between slashes, without empty ones and without `.` except at the
start of a relative path. -/
def pathComponents (path : List Char) : List (List Char) :=
  match splitAll '/' path with
  | [] => []
  | first :: rest =>
    let proper := rest.filter fun p => p ≠ [] ∧ p ≠ ['.']
    if first.isEmpty then proper else first :: proper

/-- A file name without what follows its last dot; a dot at its start does not count. -/
def stem (name : List Char) : List Char :=
  match name.reverse.span (· ≠ '.') with
  | (_, _ :: before) => if before.isEmpty then name else before.reverse
  | (_, []) => name

/-- The name under which the template of a file is stored: its file name without the extension. -/
def templateName (path : String) : Except BundleError String :=
  let last := (pathComponents path.toList).getLast?
  match last with
  | none => .error (.noTemplateName path)
  | some name =>
    if name = ['.'] ∨ name = ['.', '.'] then .error (.noTemplateName path)
    else .ok (String.ofList (stem name))

end ScriptHost
