import ScriptHost.Config
import ScriptHost.Task

/-!
# The command line

Options have a long name, most have a short one, and each is given at most once.  A value follows its
option, or is attached to it, with or without an equals sign after a short name; a word that looks
like an option is no value.  All other words are sources, and so is everything after `--`.

* `Arguments` — what a command line says.
* `Arguments.parse` — reads words from left to right; an option that waits for its value is settled
  by the word after it.
* `Arguments.task` — the task, where options come before the configuration.
-/

namespace ScriptHost

/-- Why a command line is not carried out. -/
inductive UsageError where
  | unknownArgument
  /-- A value is missing or empty. -/
  | invalidValue
  /-- An option is given twice, or together with one that excludes it. -/
  | argumentConflict
  /-- A value is attached to an option that has none. -/
  | tooManyValues
  | displayHelp
  | displayVersion
deriving DecidableEq, Inhabited

/-- The name of the kind of an error. -/
def UsageError.kind : UsageError → String
  | unknownArgument => "UnknownArgument"
  | invalidValue => "InvalidValue"
  | argumentConflict => "ArgumentConflict"
  | tooManyValues => "TooManyValues"
  | displayHelp => "DisplayHelp"
  | displayVersion => "DisplayVersion"

/-- What a command line says. -/
structure Arguments where
  sources : List String := []
  output : Option String := none
  ns : Option String := none
  interpolate : Option String := none
  evaluate : Option String := none
  escape : Option String := none
  config : Option String := none
  noConfig : Bool := false
  verbose : Nat := 0
deriving DecidableEq, Inhabited

/-- An option with a value. -/
inductive ValueOption where
  | output | ns | interpolate | evaluate | escape | config
deriving DecidableEq, Inhabited

/-- An option without a value. -/
inductive Switch where
  | noConfig | verbose | help | version
deriving DecidableEq, Inhabited

/-- An option. -/
inductive CommandOption where
  | value (o : ValueOption)
  | switch (s : Switch)
deriving DecidableEq, Inhabited

namespace CommandOption

/-- The option of a long name. -/
def ofLong? : String → Option CommandOption
  | "output" => some (.value .output)
  | "namespace" => some (.value .ns)
  | "interpolate" => some (.value .interpolate)
  | "evaluate" => some (.value .evaluate)
  | "escape" => some (.value .escape)
  | "config" => some (.value .config)
  | "no-config" => some (.switch .noConfig)
  | "verbose" => some (.switch .verbose)
  | "help" => some (.switch .help)
  | "version" => some (.switch .version)
  | _ => none

/-- The option of a short name. -/
def ofShort? : Char → Option CommandOption
  | 'o' => some (.value .output)
  | 'n' => some (.value .ns)
  | 'c' => some (.value .config)
  | 'v' => some (.switch .verbose)
  | 'h' => some (.switch .help)
  | 'V' => some (.switch .version)
  | _ => none

end CommandOption

namespace Arguments

/-- The value of an option. -/
def valueOf (a : Arguments) : ValueOption → Option String
  | .output => a.output
  | .ns => a.ns
  | .interpolate => a.interpolate
  | .evaluate => a.evaluate
  | .escape => a.escape
  | .config => a.config

/-- The arguments with the value of an option. -/
def withValue (a : Arguments) (v : String) : ValueOption → Arguments
  | .output => { a with output := some v }
  | .ns => { a with ns := some v }
  | .interpolate => { a with interpolate := some v }
  | .evaluate => { a with evaluate := some v }
  | .escape => { a with escape := some v }
  | .config => { a with config := some v }

/-- Whether the value of an option is a path, which is never empty. -/
def isPath : ValueOption → Bool
  | .output | .config => true
  | _ => false

/-- Gives an option its value. -/
def give (a : Arguments) (o : ValueOption) (v : String) : Except UsageError Arguments :=
  if (a.valueOf o).isSome then .error .argumentConflict
  else if isPath o && v.isEmpty then .error .invalidValue
  else .ok (a.withValue v o)

/-- The greatest count of a repeated switch. -/
def countLimit : Nat := 255

/-- Sets a switch. -/
def turn (a : Arguments) : Switch → Except UsageError Arguments
  | .noConfig =>
    if a.noConfig then .error .argumentConflict else .ok { a with noConfig := true }
  | .verbose => .ok { a with verbose := min (a.verbose + 1) countLimit }
  | .help => .error .displayHelp
  | .version => .error .displayVersion

/-! ## Words -/

/-- What was read and is not settled yet. -/
inductive Pending where
  | nothing
  /-- An option that waits for its value. -/
  | option (o : ValueOption)
  /-- An option with the value that followed it. -/
  | valued (o : ValueOption) (v : String)
  /-- Sources, the latest first. -/
  | sources (words : List String)
deriving Inhabited

/-- How far a command line was read. -/
structure Progress where
  arguments : Arguments := {}
  pending : Pending := .nothing
deriving Inhabited

namespace Progress

/-- Settles what is pending. -/
def settle (p : Progress) : Except UsageError Arguments :=
  match p.pending with
  | .nothing => .ok p.arguments
  | .option _ => .error .invalidValue
  | .valued o v => p.arguments.give o v
  | .sources words =>
    if words.any String.isEmpty then .error .invalidValue
    else .ok { p.arguments with sources := p.arguments.sources ++ words.reverse }

/-- Reads a word that is no option. -/
def word (p : Progress) (w : String) (isSource : Bool) : Except UsageError Progress :=
  match p.pending with
  | .option o =>
    if isSource then .error .invalidValue else .ok { p with pending := .valued o w }
  | .sources words => .ok { p with pending := .sources (w :: words) }
  | _ => do return { arguments := ← p.settle, pending := .sources [w] }

/-- Reads an option with a value that may be attached. -/
def option (p : Progress) (o : ValueOption) (attached : Option String) :
    Except UsageError Progress := do
  let a ← p.settle
  match attached with
  | some v => return { arguments := ← a.give o v }
  | none => return { arguments := a, pending := .option o }

/-- Reads a switch. -/
def switch (p : Progress) (s : Switch) : Except UsageError Progress := do
  return { arguments := ← (← p.settle).turn s }

/-- Reads the short options of a word. -/
def short (p : Progress) : List Char → Except UsageError Progress
  | [] => .ok p
  | c :: rest => match CommandOption.ofShort? c with
    | none => .error .unknownArgument
    | some (.switch s) => do short (← p.switch s) rest
    | some (.value o) => match rest with
      | [] => p.option o none
      | '=' :: v => p.option o (some (String.ofList v))
      | v => p.option o (some (String.ofList v))

/-- Reads a long option and what is attached to it after an equals sign. -/
def long (p : Progress) (name : String) (attached : Option String) : Except UsageError Progress :=
  match CommandOption.ofLong? name, attached with
  | none, _ => .error .unknownArgument
  | some (.value o), v => p.option o v
  | some (.switch _), some _ => .error .tooManyValues
  | some (.switch s), none => p.switch s

/-- A text before and after its first equals sign. -/
def splitEquals (cs : List Char) : String × Option String :=
  (String.ofList (cs.takeWhile (· != '=')),
    match cs.dropWhile (· != '=') with
    | _ :: v => some (String.ofList v)
    | [] => none)

/-- Reads words from left to right. -/
def words (p : Progress) : List String → Except UsageError Progress
  | [] => .ok p
  | w :: rest => match w.toList with
    | ['-', '-'] => rest.foldlM (fun p w => p.word w true) p
    | '-' :: '-' :: cs => do
      let (name, attached) := splitEquals cs
      words (← p.long name attached) rest
    | '-' :: c :: cs => do words (← p.short (c :: cs)) rest
    | _ => do words (← p.word w false) rest

end Progress

/-- Reads a command line, the program's name not included. -/
def parse (args : List String) : Except UsageError Arguments := do
  let a ← (← Progress.words {} args).settle
  if a.config.isSome && a.noConfig then .error .argumentConflict else .ok a

/-! ## Use -/

/-- How much is to be reported. -/
def logLevel (a : Arguments) : String :=
  match a.verbose with
  | 0 => "info"
  | 1 => "debug"
  | _ => "trace"

/-- The delimiters that the options give. -/
def settings (a : Arguments) : Template.Settings := ⟨a.interpolate, a.evaluate, a.escape⟩

/-- The task; what no option gives is taken from the configuration. -/
def task (a : Arguments) (c : Config) : Task where
  sources := a.sources
  output := (a.output.or c.output).getD ""
  ns := (a.ns.or c.ns).getD ""
  settings := a.settings.orElse c.settings

end Arguments

end ScriptHost
