import ScriptHost.TableScript.Builtin.Argument

/-!
# Modules

A module is looked for by one function after the other.  The machine sees no files, so only modules that
a script itself has put into the table `preload` are found.

* `Modules.requireModule` — the value of a module, which is loaded once.
* `Modules.group` — the group `package`.
-/

namespace ScriptHost.TableScript.Builtin.Modules

open Text (Bytes)
open Script

/-! ## Places -/

/-- The places where modules of scripts are looked for. -/
def scriptPlaces : String :=
  "/usr/local/share/lua/5.4/?.lua;/usr/local/share/lua/5.4/?/init.lua;"
    ++ "/usr/local/lib/lua/5.4/?.lua;/usr/local/lib/lua/5.4/?/init.lua;./?.lua;./?/init.lua"

/-- The places where modules in machine code would be looked for. -/
def nativePlaces : String :=
  "/usr/local/lib/lua/5.4/?.so;/usr/local/lib/lua/5.4/loadall.so;./?.so"

/-- The separators of paths, and the marks in them. -/
def pathMarks : String := "/\n;\n?\n!\n-\n"

/-- Puts one text in the place of another. -/
def replaced (s old new : Bytes) : Bytes := go (s.size + 1) 0
where
  go : Nat → Nat → Bytes
    | 0, i => s.slice i s.size
    | fuel + 1, i => match if old.size = 0 then none else s.find? old i with
      | none => s.slice i s.size
      | some j => s.slice i j ++ new ++ go fuel (j + old.size)

/-- What is said of a module that is in none of some places. -/
def notFound (places name : Bytes) : Bytes :=
  let files := replaced places (.ofString "?") name
  .ofString "no file '" ++ replaced files (.ofString ";") (.ofString "'\n\tno file '")
    ++ .ofString "'"

/-- The file of a module, which is never there. -/
def searchPlaces (args : Array Val) : Script (Array Val) := do
  let name ← textArg args 0
  let places ← textArg args 1
  let sep ← textOr args 2 (.ofString ".")
  let dirsep ← textOr args 3 (.ofString "/")
  return refusal (notFound places (replaced name sep dirsep))

/-! ## Searchers -/

/-- The table of the group. -/
def packageTable : Script Val := return (← tableAt loadedTable).getText "package"

/-- Looks for a module among those that scripts provide. -/
def searchProvided (args : Array Val) : Script (Array Val) := do
  let name ← textArg args 0
  let provided ← getIndex (← packageTable) (.ofString "preload")
  match ← getIndex provided (.str name) with
  | .nil => return #[.str (.ofString "no field package.preload['" ++ name ++ .ofString "']")]
  | loader => return #[loader, .ofString ":preload:"]

/-- Looks for the file of a module. -/
def searchFiles (args : Array Val) : Script (Array Val) := do
  let name ← textArg args 0
  match (← getIndex (← packageTable) (.ofString "path")).text? with
  | some places =>
    return #[.str (notFound places (replaced name (.ofString ".") (.ofString "/")))]
  | none => failCall "'package.path' must be a string"

/-- Modules in machine code are not admitted. -/
def searchNatives : Script (Array Val) := return #[.ofString "\n\tcan't load C modules in safe mode"]

/-- Asks one searcher after the other. -/
def searchFrom (searchers name : Val) : Nat → Nat → Bytes → Script (Val × Val)
  | 0, _, _ => return (.nil, .nil)
  | fuel + 1, i, reasons => do
    match ← getIndex searchers (.ofNat i) with
    | .nil =>
      failCallBytes (.ofString "module '" ++ name.text?.getD Bytes.empty
        ++ .ofString "' not found:" ++ reasons)
    | searcher =>
      let found ← call searcher #[name]
      match found.getD 0 .nil with
      | .function f => return (.function f, found.getD 1 .nil)
      | v => match v.text? with
        | some reason =>
          searchFrom searchers name fuel (i + 1) (reasons ++ .ofString "\n\t" ++ reason)
        | none => searchFrom searchers name fuel (i + 1) reasons

/-- The value of a module, which is loaded unless it is there already. -/
def requireModule (args : Array Val) : Script (Array Val) := do
  let name ← textArg args 0
  let loaded := Val.table loadedTable
  let known ← getIndex loaded (.str name)
  if known.isTrue then return #[known]
  let searchers ← match ← getIndex (← packageTable) (.ofString "searchers") with
    | .table id => pure (Val.table id)
    | _ => failCall "'package.searchers' must be a table"
  let (loader, extra) ← searchFrom searchers (.str name) stepLimit 1 Bytes.empty
  match ← callOne loader #[.str name, extra] with
  | .nil => pure ()
  | v => setIndex loaded (.str name) v
  if (← getIndex loaded (.str name)).isNil then setIndex loaded (.str name) (.bool true)
  return #[← getIndex loaded (.str name), extra]

/-! ## The group -/

/-- The functions that look for modules, in order. -/
def searchers : List Native := [
  ⟨"preload_searcher", fun _ args => searchProvided args⟩,
  ⟨"file_searcher", fun _ args => searchFiles args⟩,
  ⟨"native_searcher", fun _ _ => searchNatives⟩]

/-- The global function that loads modules. -/
def requireNative : Native := ⟨"require", fun _ args => requireModule args⟩

/-- The functions of the group; its tables are added when the machine is put together. -/
def group : FunctionGroup where
  name := "package"
  natives := [
    ⟨"loadlib", fun _ _ => failHost "package.loadlib is disabled in safe mode"⟩,
    ⟨"searchpath", fun _ args => searchPlaces args⟩]
  constants := [
    ("path", .ofString scriptPlaces), ("cpath", .ofString nativePlaces),
    ("config", .ofString pathMarks)]

end ScriptHost.TableScript.Builtin.Modules
