import ScriptHost.Text.Lines
import ScriptHost.Template.Settings

/-!
# Configuration files

A configuration file has a setting `key = value` in each line.  Blank lines and lines that start with
a semicolon or a number sign are skipped; a value may stand between double quotes.  A bad line is
reported and skipped; everything else still counts.
-/

namespace ScriptHost

/-- What a configuration file sets. -/
structure Config where
  ns : Option String := none
  output : Option String := none
  settings : Template.Settings := {}
deriving DecidableEq, Inhabited

/-- A bad line of a configuration file. -/
structure ConfigError where
  line : Nat
  message : String
deriving DecidableEq, Inhabited

/-- The text of a configuration error. -/
def ConfigError.display (e : ConfigError) : String := "line " ++ toString e.line ++ ": " ++ e.message

namespace Config

/-! ## Quoted values -/

/-- Why a quoted value cannot be read. -/
inductive QuoteError where
  | trailingText
  | unterminated
deriving DecidableEq

/-- The text after an opening quote, as far as the closing one.  A backslash makes a quote or a
backslash part of the text; before any other character it stands for itself. -/
def unquoteTail : List Char → Except QuoteError (List Char)
  | [] => .error .unterminated
  | '\\' :: rest => match rest with
    | [] => .error .unterminated
    | c :: rest =>
      if c = '"' ∨ c = '\\' then (c :: ·) <$> unquoteTail rest
      else (fun t => '\\' :: c :: t) <$> unquoteTail rest
  | '"' :: rest => if rest.all Text.isBlank then .ok [] else .error .trailingText
  | c :: rest => (c :: ·) <$> unquoteTail rest

/-- A value without the double quotes around it, if it starts with one. -/
def unquote (value : String) : Except String String :=
  match value.toList with
  | '"' :: rest => match unquoteTail rest with
    | .ok cs => .ok (String.ofList cs)
    | .error .trailingText => .error ("trailing text after quoted value `" ++ value ++ "`")
    | .error .unterminated => .error ("unterminated quote in `" ++ value ++ "`")
  | _ => .ok value

/-! ## Lines -/

/-- A text before and after its first equals sign. -/
def splitAssignment (line : List Char) : Option (List Char × List Char) :=
  match line.span (· ≠ '=') with
  | (key, _ :: value) => some (key, value)
  | (_, []) => none

/-- The configuration with a key set, if there is such a key. -/
def set? (c : Config) (key value : String) : Option Config :=
  match key.map Char.toLower with
  | "namespace" => some { c with ns := some value }
  | "output" => some { c with output := some value }
  | "interpolate" => some { c with settings := { c.settings with interpolate := some value } }
  | "evaluate" => some { c with settings := { c.settings with evaluate := some value } }
  | "escape" => some { c with settings := { c.settings with escape := some value } }
  | _ => none

/-- What one line changes, or what is wrong with it. -/
def readLine (c : Config) (raw : String) : Except String Config :=
  let line := Text.trim raw
  match line.toList with
  | [] => .ok c
  | first :: _ =>
    if first = ';' ∨ first = '#' then .ok c
    else match splitAssignment line.toList with
      | none => .error ("expected `key = value`, got `" ++ line ++ "`")
      | some (key, value) => do
        let key := Text.trim (String.ofList key)
        let value ← unquote (Text.trim (String.ofList value))
        match c.set? key value with
        | some c => .ok c
        | none => .error ("unknown key `" ++ key ++ "`")

/-- Reads lines, the first of which has the given number. -/
def readLines (c : Config) (n : Nat) : List String → Config × List ConfigError
  | [] => (c, [])
  | raw :: rest => match readLine c raw with
    | .ok c => readLines c (n + 1) rest
    | .error message =>
      let (c, errors) := readLines c (n + 1) rest
      (c, ⟨n, message⟩ :: errors)

/-- Reads the text of a configuration file. -/
def read (text : String) : Config × List ConfigError := readLines {} 1 (Text.lines text)

end Config

end ScriptHost
