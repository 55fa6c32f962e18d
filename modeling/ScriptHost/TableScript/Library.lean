import ScriptHost.TableScript.Builtin.Basic
import ScriptHost.TableScript.Builtin.CodePoints
import ScriptHost.TableScript.Builtin.Coroutines
import ScriptHost.TableScript.Builtin.Maths
import ScriptHost.TableScript.Builtin.Modules
import ScriptHost.TableScript.Builtin.Systems
import ScriptHost.TableScript.Builtin.Tables
import ScriptHost.TableScript.Builtin.Texts

/-!
# The machine before any text has run

The functions of the machine are numbered in the order in which they are added.  Those that other ones
answer come first, so that their numbers are known.

* `Setup` — a machine under construction with the functions added so far.
* `Setup.install` — adds a table of functions.
* `Machine.initial`, `library` — the result.
-/

namespace ScriptHost.TableScript

open Builtin

/-- A machine under construction, with its functions in the order of their numbers. -/
structure Setup where
  machine : Machine
  library : Array Native := #[]

namespace Setup

/-! ## Steps -/

/-- Adds a function. -/
def addCallee (s : Setup) (c : Callee) : Val × Setup :=
  let m := s.machine
  (.function m.functions.size, { s with machine := { m with functions := m.functions.push c } })

/-- Adds a function of the machine. -/
def addNative (s : Setup) (n : Native) : Val × Setup :=
  { s with library := s.library.push n }.addCallee (.native s.library.size #[])

/-- Adds a table. -/
def addTable (s : Setup) (t : Table) : Nat × Setup :=
  let m := s.machine
  (m.tables.size, { s with machine := { m with tables := m.tables.push t } })

/-- Stores an entry. -/
def define (s : Setup) (id : Nat) (name : String) (v : Val) : Setup :=
  { s with machine := { s.machine with
      tables := s.machine.tables.modify id fun t => t.storeText name v } }

/-- Adds a function of the machine to a table. -/
def defineNative (id : Nat) (s : Setup) (n : Native) : Setup :=
  let (f, s) := s.addNative n
  s.define id n.name f

/-- Adds another function to a table. -/
def defineCallee (s : Setup) (id : Nat) (name : String) (c : Callee) : Setup :=
  let (f, s) := s.addCallee c
  s.define id name f

/-- Adds the functions of a group to a table. -/
def fill (s : Setup) (id : Nat) (g : FunctionGroup) : Setup :=
  let s := g.natives.foldl (defineNative id) s
  g.constants.foldl (fun s (name, v) => s.define id name v) s

/-- Adds a group as a global table. -/
def install (s : Setup) (g : FunctionGroup) : Setup :=
  let (id, s) := s.addTable {}
  let s := s.fill id g
  (s.define globalTable g.name (.table id)).define loadedTable g.name (.table id)

/-- The table of a group. -/
def groupTable (s : Setup) (name : String) : Nat :=
  match (s.machine.tableAt loadedTable).getText name with
  | .table id => id
  | _ => globalTable

/-! ## Functions that others answer -/

/-- What stands for the host among the active functions where it uses a variable itself. -/
def host : Native := ⟨"host", fun _ _ => return #[]⟩

/-- The functions with the least numbers. -/
def answered : List Native :=
  Basic.answered ++ [Texts.matchAnswerer] ++ CodePoints.answered ++
    [⟨"wrapped", fun f args => Coroutines.goOnWrapped f args⟩, Systems.noLines, host] ++
    Modules.searchers

/-- The numbers of some of them. -/
def matchIndex : Nat := Basic.answered.length

def pointsIndex : Nat := matchIndex + 1

def wrappedIndex : Nat := pointsIndex + CodePoints.answered.length

def noLinesIndex : Nat := wrappedIndex + 1

def hostIndex : Nat := noLinesIndex + 1

def searchersIndex : Nat := hostIndex + 1

/-! ## The parts of the machine -/

/-- Adds the functions that are global variables themselves. -/
def addBasics (s : Setup) : Setup :=
  let s := s.define globalTable "_G" (.table globalTable)
  let s := s.define loadedTable "_G" (.table globalTable)
  let s := s.define globalTable "_VERSION" (.ofString "Lua 5.4")
  let s := s.define globalTable "next" (.function Basic.nextEntryIndex)
  let s := Basic.natives.foldl (defineNative globalTable) s
  let s := s.defineCallee globalTable "pcall" .protectedCall
  s.defineCallee globalTable "xpcall" .guardedCall

/-- Adds what texts can do. -/
def addTexts (s : Setup) : Setup :=
  let s := s.install (Texts.group matchIndex)
  let s := s.define textMetatable "__index" (.table (s.groupTable "string"))
  Texts.operations.foldl (fun s (_, n) => defineNative textMetatable s n) s

/-- Adds what open files can do. -/
def addFiles (s : Setup) : Setup :=
  let s := s.install (Systems.ioGroup noLinesIndex)
  let (methods, s) := s.addTable {}
  let s := (Systems.fileMethods noLinesIndex).foldl (defineNative methods) s
  let s := s.define fileMetatable "__name" (.ofString "FILE*")
  let s := s.define fileMetatable "__index" (.table methods)
  defineNative fileMetatable s Systems.fileText

/-- Adds the functions on coroutines. -/
def addCoroutines (s : Setup) : Setup :=
  let s := s.install (Coroutines.group wrappedIndex)
  s.defineCallee (s.groupTable "coroutine") "yield" .suspension

/-- Adds the functions on modules. -/
def addModules (s : Setup) : Setup :=
  let s := s.install Modules.group
  let home := s.groupTable "package"
  let (provided, s) := s.addTable {}
  let items := (List.range Modules.searchers.length).map fun i => Val.function (searchersIndex + i)
  let list : Table := (items.foldl (fun (t, i) v => (Table.store t (.ofNat i) v, i + 1))
    (({} : Table), 1)).1
  let (searchers, s) := s.addTable list
  let s := s.define home "loaded" (.table loadedTable)
  let s := s.define home "preload" (.table provided)
  let s := s.define home "searchers" (.table searchers)
  defineNative globalTable s Modules.requireNative

/-- The machine with its first tables only. -/
def bare : Setup where
  machine := {
    tables := #[{}, {}, {}, {}]
    random := (Maths.Generator.seeded 0 0).toArray }

/-- The finished machine with its functions. -/
def initial : Setup :=
  let s := answered.foldl (fun s n => (s.addNative n).2) bare
  let s := s.addBasics.addTexts.addFiles.addCoroutines.addModules
  [Tables.group, Maths.group, CodePoints.group pointsIndex, Systems.osGroup].foldl install s

end Setup

/-- The functions of the machine, by their numbers. -/
def library : Array Native := Setup.initial.library

/-- The machine before any text has run. -/
def Machine.initial : Machine := Setup.initial.machine

/-- Runs a computation on a machine. -/
def Machine.perform {α : Type} (m : Machine) (act : Script α) : EStateM.Result Abort Machine α :=
  act (callsAt library callLevels) m

end ScriptHost.TableScript
