import ScriptHost.CommandLine

/-!
# The program

The program reads its command line, looks for a configuration file, and runs the task.  Bad lines of
the configuration are reported and do not stop it.

* `findConfig` — which configuration file counts.
* `Program.run` — the lines that are reported, and the exit code.
-/

namespace ScriptHost

/-- The configuration file of a directory. -/
def localConfig : String := ".jstrc"

/-- The configuration file of a user, below the directory of all configurations. -/
def userConfig (configHome : String) : String := configHome ++ "/jst/config"

variable {m : Type → Type} [Monad m]

/-- The configuration file that counts: the one asked for, or the local one, or the user's. -/
def findConfig (files : Files m) (explicit user : Option String) : m (Option String) := do
  match explicit with
  | some path => return some path
  | none =>
    if ← files.isFile localConfig then return some localConfig
    match user with
    | none => return none
    | some path => if ← files.isFile path then return some path else return none

/-- What a run of the program ends with. -/
structure Report where
  exitCode : Nat
  /-- The lines on the error stream. -/
  lines : List String
  /-- The command line was not carried out. -/
  usage : Option UsageError := none
deriving Inhabited

namespace Program

/-- The line for a failure. -/
def failureLine (message : String) : String := "jst: " ++ message

/-- The line for a bad line of a configuration file. -/
def warningLine (path : String) (e : ConfigError) : String :=
  "WARN jst: " ++ path ++ ": " ++ e.display

/-- The line for a finished task. -/
def finishedLine (count : Nat) (output : String) : String :=
  "INFO jst::task: Compiled " ++ toString count ++ " templates to " ++ output

/-- The configuration and the lines about it, or the line that says why it cannot be read. -/
def loadConfig (files : Files m) (a : Arguments) (user : Option String) :
    m (Except String (Config × List String)) := do
  if a.noConfig then return .ok ({}, [])
  match ← findConfig files a.config user with
  | none => return .ok ({}, [])
  | some path => match ← files.readText path with
    | .error e => return .error (failureLine (path ++ ": " ++ e.message))
    | .ok text =>
      let (config, errors) := Config.read text
      return .ok (config, errors.map (warningLine path))

/-- Runs the program. -/
def run (files : Files m) (user : Option String) (args : List String) : m Report := do
  match Arguments.parse args with
  | .error e =>
    let shown := e = .displayHelp ∨ e = .displayVersion
    return { exitCode := if shown then 0 else 2, lines := [], usage := some e }
  | .ok a => match ← loadConfig files a user with
    | .error line => return { exitCode := 1, lines := [line] }
    | .ok (config, warnings) =>
      let task := a.task config
      match ← task.run files with
      | .error e => return { exitCode := 1, lines := warnings ++ [failureLine e.message] }
      | .ok n =>
        return { exitCode := 0, lines := warnings ++ [finishedLine n task.output] }

end Program

end ScriptHost
