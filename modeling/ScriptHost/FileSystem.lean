import ScriptHost.Text.Utf8
import ScriptHost.Bundle

/-!
# Files

What programs ask of a file system, and a file system as a value: a tree of directories and files
with a working directory, without links.  Paths are resolved part by part: `.` and empty parts stay in
a directory, `..` goes back, and only directories have parts below them.

A file is put in its place at once or not at all: it is written beside the place, as a draft, and the
whole draft is then renamed.  Every step of this may fail, and then the draft is removed.

* `IoError` — why a file operation fails.
* `Files` — the operations, in any monad; `Files.replace` puts a file in its place.
* `FileSystem.locate` — the place that a path names.
* `FileSystem.files` — the operations on a file system as a value.
-/

namespace ScriptHost

/-! ## Errors -/

/-- Why a file operation fails. -/
inductive IoError where
  | notFound
  | notADirectory
  | isADirectory
  /-- The path names a directory that is in use as such. -/
  | resourceBusy
  | invalidFilename
  /-- The path holds a character that no path can hold. -/
  | invalidInput
  /-- The bytes of a file are no text. -/
  | invalidData
  | other (message : String)
deriving DecidableEq, Inhabited

namespace IoError

/-- The name of the kind of an error. -/
def kind : IoError → String
  | notFound => "NotFound"
  | notADirectory => "NotADirectory"
  | isADirectory => "IsADirectory"
  | resourceBusy => "ResourceBusy"
  | invalidFilename => "InvalidFilename"
  | invalidInput => "InvalidInput"
  | invalidData => "InvalidData"
  | other _ => "Other"

/-- The text of an error. -/
def message : IoError → String
  | notFound => "No such file or directory (os error 2)"
  | notADirectory => "Not a directory (os error 20)"
  | isADirectory => "Is a directory (os error 21)"
  | resourceBusy => "Device or resource busy (os error 16)"
  | invalidFilename => "File name too long (os error 36)"
  | invalidInput => "file name contained an unexpected NUL byte"
  | invalidData => "stream did not contain valid UTF-8"
  | other m => m

end IoError

/-- A file that was made under a new name and is to be renamed. -/
structure Draft where
  path : String
  location : List String
deriving DecidableEq, Inhabited

/-- What programs ask of a file system. -/
structure Files (m : Type → Type) where
  /-- The bytes of a file. -/
  read : String → m (Except IoError (List UInt8))
  isFile : String → m Bool
  /-- Makes an empty file under a new name in a directory. -/
  draft : String → m (Except IoError Draft)
  /-- Writes the bytes of a draft; a failure may leave a part of them in it. -/
  write : Draft → List UInt8 → m (Except IoError Unit)
  /-- Gives a draft the place that a path names, and if there is a file, takes that away. -/
  rename : Draft → String → m (Except IoError Unit)
  remove : Draft → m Unit

/-! ## Parents -/

/-- Whether a part of a path, not the first, says nothing. -/
def isIdlePart (part : List Char) : Bool := part == [] || part == ['.']

/-- Parts in reverse order without idle ones at their head; the last, which is the first of the path,
stays. -/
def dropIdle : List (List Char) → List (List Char)
  | [] => []
  | [first] => [first]
  | part :: rest => if isIdlePart part then dropIdle rest else part :: rest

/-- The path of the directory of a path, or `.` if the path names none. -/
def parentPath (path : String) : String :=
  match dropIdle (splitAll '/' path.toList).reverse with
  | [] | [_] => "."
  | _ :: rest => match dropIdle rest with
    | [[]] => "/"
    | parts => "/".intercalate (parts.reverse.map String.ofList)

/-! ## Compound operations -/

namespace Files

variable {m : Type → Type} [Monad m]

/-- The text of a file. -/
def readText (files : Files m) (path : String) : m (Except IoError String) := do
  match ← files.read path with
  | .error e => return .error e
  | .ok bytes => match Text.Utf8.decode? bytes with
    | some text => return .ok text
    | none => return .error .invalidData

/-- Puts a file in the place of another one, or where none was.  A failure names the path that it
concerns. -/
def replace (files : Files m) (path : String) (bytes : List UInt8) :
    m (Except (String × IoError) Unit) := do
  match ← files.draft (parentPath path) with
  | .error e => return .error (parentPath path, e)
  | .ok draft => match ← files.write draft bytes with
    | .error e =>
      files.remove draft
      return .error (draft.path, e)
    | .ok _ => match ← files.rename draft path with
      | .error e =>
        files.remove draft
        return .error (path, e)
      | .ok _ => return .ok ()

end Files

/-! ## Trees -/

/-- A directory tree. -/
inductive Tree where
  | file (bytes : List UInt8)
  | directory (entries : List (String × Tree))
deriving Inhabited

namespace Tree

/-- The tree at a location, a list of names from the root. -/
def get? : Tree → List String → Option Tree
  | t, [] => some t
  | .file _, _ :: _ => none
  | .directory entries, name :: rest => match entries.lookup name with
    | some t => t.get? rest
    | none => none

/-- Entries with a tree under a name, in the place of an earlier one. -/
def putEntry (name : String) (t : Tree) : List (String × Tree) → List (String × Tree)
  | [] => [(name, t)]
  | (k, u) :: rest => if k = name then (k, t) :: rest else (k, u) :: putEntry name t rest

/-- The tree with another one at a location; directories on the way are made. -/
def put (new : Tree) : List String → Tree → Tree
  | [], _ => new
  | name :: rest, .directory entries =>
    .directory (putEntry name (put new rest ((entries.lookup name).getD (.directory []))) entries)
  | name :: rest, .file _ => .directory [(name, put new rest (.directory []))]

/-- The tree without what is at a location. -/
def erase : List String → Tree → Tree
  | [], t => t
  | _ :: _, .file bytes => .file bytes
  | [name], .directory entries => .directory (entries.eraseP (·.1 == name))
  | name :: rest, .directory entries => match entries.lookup name with
    | none => .directory entries
    | some t => .directory (putEntry name (erase rest t) entries)

mutual

/-- All files below a location, with their locations. -/
def files (at0 : List String) : Tree → List (List String × List UInt8)
  | .file bytes => [(at0, bytes)]
  | .directory entries => filesOf at0 entries

/-- All files of some entries. -/
def filesOf (at0 : List String) : List (String × Tree) → List (List String × List UInt8)
  | [] => []
  | (name, t) :: rest => files (at0 ++ [name]) t ++ filesOf at0 rest

end

end Tree

/-! ## File systems -/

/-- How a name for a new file is found, given those that are taken. -/
structure Naming where
  choose : List String → String
  choose_not_mem (taken : List String) : choose taken ∉ taken

/-- A name that is longer than those that are taken. -/
def Naming.longer : Naming where
  choose taken := String.join (".tmp" :: taken)
  choose_not_mem taken h := by
    have hpart : (String.join (".tmp" :: taken)).toList.Sublist (String.join taken).toList := by
      rw [String.toList_join (l := taken), List.flatMap_def]
      exact List.sublist_flatten_of_mem (List.mem_map_of_mem h)
    have hlength := hpart.length_le
    simp only [String.join_cons, String.toList_append, List.length_append, String.length_toList] at hlength
    have : ".tmp".length = 4 := rfl
    omega

/-- What fails although the tree admits it, for want of permissions or of space. -/
structure Obstacles where
  read : String → Option IoError := fun _ => none
  draft : String → Option IoError := fun _ => none
  /-- How many bytes of a draft are written before the failure. -/
  write : Option (Nat × IoError) := none
  rename : String → Option IoError := fun _ => none

/-- A file system with a working directory. -/
structure FileSystem where
  root : Tree := .directory []
  /-- The location of the working directory. -/
  here : List String := []
  naming : Naming := .longer
  obstacles : Obstacles := {}
deriving Inhabited

namespace FileSystem

/-- The greatest number of bytes in a name. -/
def nameLimit : Nat := 255

/-- The greatest number of bytes in a path. -/
def pathLimit : Nat := 4095

/-- Goes from a location, which must be a directory, along one part of a path. -/
def enter (fs : FileSystem) (at0 : List String) (part : List Char) :
    Except IoError (List String) :=
  match fs.root.get? at0 with
  | none => .error .notFound
  | some (.file _) => .error .notADirectory
  | some (.directory entries) =>
    if isIdlePart part then .ok at0
    else if part = ['.', '.'] then .ok at0.dropLast
    else
      let name := String.ofList part
      if name.utf8ByteSize > nameLimit then .error .invalidFilename
      else if (entries.lookup name).isSome then .ok (at0 ++ [name])
      else .error .notFound

/-- The location that the parts of a path lead to. -/
def walk (fs : FileSystem) (at0 : List String) (parts : List (List Char)) :
    Except IoError (List String) :=
  parts.foldlM fs.enter at0

/-- The location where a path starts. -/
def start (fs : FileSystem) (path : List Char) : List String :=
  if path.head? = some '/' then [] else fs.here

/-- Refuses paths that no file can have. -/
def checkPath (path : String) : Except IoError Unit :=
  if path.toList.contains (Char.ofNat 0) then .error .invalidInput
  else if path.isEmpty then .error .notFound
  else if path.utf8ByteSize > pathLimit then .error .invalidFilename
  else .ok ()

/-- The location that a path names. -/
def locate (fs : FileSystem) (path : String) : Except IoError (List String) := do
  checkPath path
  fs.walk (fs.start path.toList) (splitAll '/' path.toList)

/-- The bytes of the file that a path names. -/
def readBytes (fs : FileSystem) (path : String) : Except IoError (List UInt8) := do
  match fs.root.get? (← fs.locate path) with
  | some (.file bytes) => .ok bytes
  | some (.directory _) => .error .isADirectory
  | none => .error .notFound

/-- Whether a path names a file. -/
def isFile (fs : FileSystem) (path : String) : Bool := (fs.readBytes path).isOk

/-- Parts in reverse order without empty ones at their head. -/
def dropEmpty (parts : List (List Char)) : List (List Char) := parts.dropWhile (· == [])

/-- The location at which a path would have a file put in place. -/
def target (fs : FileSystem) (path : String) : Except IoError (List String) := do
  checkPath path
  let parts := (splitAll '/' path.toList).reverse
  match dropEmpty parts with
  | [] => .error .resourceBusy
  | last :: before => do
    let directory ← fs.walk (fs.start path.toList) before.reverse
    let _ ← fs.enter directory []
    if isIdlePart last || last == ['.', '.'] then .error .resourceBusy
    else match fs.enter directory last with
      | .error .notFound =>
        if parts.head? = some [] then .error .notADirectory
        else .ok (directory ++ [String.ofList last])
      | .error e => .error e
      | .ok location =>
        if parts.head? = some [] then .error .notADirectory
        else match fs.root.get? location with
          | some (.directory _) => .error .isADirectory
          | _ => .ok location

/-- The bytes of a file, unless something is in the way. -/
def read (fs : FileSystem) (path : String) : Except IoError (List UInt8) :=
  match fs.obstacles.read path with
  | some e => .error e
  | none => fs.readBytes path

/-! ### Drafts -/

/-- The path of an entry of a directory. -/
def joinPath (directory name : String) : String :=
  if directory.endsWith "/" then directory ++ name else directory ++ "/" ++ name

/-- A path that does not depend on the working directory. -/
def absolutePath (fs : FileSystem) (path : String) : String :=
  if path.startsWith "/" then path else joinPath ("/" ++ "/".intercalate fs.here) path

/-- Makes an empty file under a new name in a directory. -/
def draft (fs : FileSystem) (directory : String) : Except IoError Draft × FileSystem :=
  match fs.locate directory with
  | .error e => (.error e, fs)
  | .ok at0 => match fs.root.get? at0 with
    | none => (.error .notFound, fs)
    | some (.file _) => (.error .notADirectory, fs)
    | some (.directory entries) => match fs.obstacles.draft directory with
      | some e => (.error e, fs)
      | none =>
        let name := fs.naming.choose (entries.map (·.1))
        let location := at0 ++ [name]
        (.ok { path := joinPath (fs.absolutePath directory) name, location },
          { fs with root := Tree.put (.file []) location fs.root })

/-- Writes the bytes of a draft. -/
def write (fs : FileSystem) (d : Draft) (bytes : List UInt8) : Except IoError Unit × FileSystem :=
  match fs.obstacles.write with
  | some (n, e) => (.error e, { fs with root := Tree.put (.file (bytes.take n)) d.location fs.root })
  | none => (.ok (), { fs with root := Tree.put (.file bytes) d.location fs.root })

/-- Gives a draft the place that a path names. -/
def rename (fs : FileSystem) (d : Draft) (path : String) : Except IoError Unit × FileSystem :=
  match fs.target path with
  | .error e => (.error e, fs)
  | .ok location => match fs.obstacles.rename path with
    | some e => (.error e, fs)
    | none => match fs.root.get? d.location with
      | none => (.error .notFound, fs)
      | some file => (.ok (), { fs with root := Tree.put file location (Tree.erase d.location fs.root) })

/-- Removes a draft. -/
def remove (fs : FileSystem) (d : Draft) : FileSystem :=
  { fs with root := Tree.erase d.location fs.root }

/-- The operations of file systems as values. -/
def files : Files (StateM FileSystem) where
  read path := return (← get).read path
  isFile path := return (← get).isFile path
  draft directory := modifyGet fun fs => fs.draft directory
  write d bytes := modifyGet fun fs => fs.write d bytes
  rename d path := modifyGet fun fs => fs.rename d path
  remove d := modify fun fs => fs.remove d

end FileSystem

end ScriptHost
