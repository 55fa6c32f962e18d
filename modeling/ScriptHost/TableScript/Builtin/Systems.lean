import ScriptHost.Calendar
import ScriptHost.Decimal.Shortest
import ScriptHost.TableScript.Builtin.Argument

/-!
# Functions on the system

A machine has no clock, no files and no environment: the time stands still at its start, and whatever is
looked for outside is missing.  Local time is universal time.

* `Systems.dateText` — a time as a format describes it.
* `Systems.osGroup`, `Systems.ioGroup` — the groups `os` and `io`.
-/

namespace ScriptHost.TableScript.Builtin.Systems

open Text (Bytes)
open Script
open Decimal (padded)

/-! ## Times -/

/-- A time taken apart; months count from 1 here. -/
structure Moment where
  year : Int
  month : Int
  day : Int
  hour : Int
  minute : Int
  second : Int
  /-- From Sunday on, counted from 0. -/
  weekday : Int
  /-- The day of the year, counted from 0. -/
  yearday : Int

/-- The moment a number of seconds after the start of 1970. -/
def Moment.ofSeconds (t : Int) : Moment :=
  let days := t.fdiv 86400
  let s := t - 86400 * days
  let (year, month, day) := Calendar.dateOfDays days
  { year, month := month + 1, day
    hour := s / 3600, minute := s / 60 % 60, second := s % 60
    weekday := (days + 4) % 7, yearday := days - Calendar.daysToMonth year 0 }

/-- The seconds up to a date whose parts may lie outside their ranges. -/
def secondsOf (year month day hour minute second : Int) : Int :=
  ((Calendar.daysToMonth year (month - 1) + day - 1) * 24 + hour) * 3600 + minute * 60 + second

/-- The full names of the days of the week. -/
def weekdays : List String :=
  ["Sunday", "Monday", "Tuesday", "Wednesday", "Thursday", "Friday", "Saturday"]

/-- The full names of the months. -/
def months : List String := [
  "January", "February", "March", "April", "May", "June", "July", "August", "September", "October",
  "November", "December"]

def two (i : Int) : String := padded 2 i.natAbs

/-- Digits filled up with a blank. -/
def blank (i : Int) : String := if i < 10 then " " ++ toString i else toString i

/-- The week of a year whose weeks begin with a day of the week. -/
def week (m : Moment) (firstDay : Int) : Int := (m.yearday + 7 - (m.weekday - firstDay) % 7) / 7

/-- The year and the week of the international calendar: weeks belong to the year that has most of
their days. -/
def isoWeek (m : Moment) : Int × Int :=
  let thursday := m.yearday - (m.weekday + 6) % 7 + 3
  let days (year : Int) : Int := Calendar.daysToMonth (year + 1) 0 - Calendar.daysToMonth year 0
  if thursday < 0 then (m.year - 1, (thursday + days (m.year - 1)) / 7 + 1)
  else if thursday ≥ days m.year then (m.year + 1, (thursday - days m.year) / 7 + 1)
  else (m.year, thursday / 7 + 1)

/-- The hour on a clock of twelve hours. -/
def halfHour (m : Moment) : Int := if m.hour % 12 = 0 then 12 else m.hour % 12

/-- What a letter of a format stands for. -/
def Moment.part? (m : Moment) (seconds : Int) (letter : Char) : Option String :=
  let clock := two m.hour ++ ":" ++ two m.minute
  let date := two m.month ++ "/" ++ two m.day ++ "/" ++ two (m.year % 100)
  let weekday := Calendar.weekdayNames.getD m.weekday.toNat ""
  let month := Calendar.monthNames.getD (m.month - 1).toNat ""
  let half := if m.hour < 12 then "AM" else "PM"
  match letter with
  | 'a' => some weekday
  | 'A' => some (weekdays.getD m.weekday.toNat "")
  | 'b' | 'h' => some month
  | 'B' => some (months.getD (m.month - 1).toNat "")
  | 'c' =>
    some (weekday ++ " " ++ month ++ " " ++ blank m.day ++ " " ++ clock ++ ":" ++ two m.second
      ++ " " ++ toString m.year)
  | 'C' => some (two (m.year / 100))
  | 'd' => some (two m.day)
  | 'D' | 'x' => some date
  | 'e' => some (blank m.day)
  | 'F' => some (toString m.year ++ "-" ++ two m.month ++ "-" ++ two m.day)
  | 'g' => some (two ((isoWeek m).1 % 100))
  | 'G' => some (toString (isoWeek m).1)
  | 'H' => some (two m.hour)
  | 'I' => some (two (halfHour m))
  | 'j' => some (padded 3 (m.yearday + 1).natAbs)
  | 'm' => some (two m.month)
  | 'M' => some (two m.minute)
  | 'n' => some "\n"
  | 'p' => some half
  | 'r' => some (two (halfHour m) ++ ":" ++ two m.minute ++ ":" ++ two m.second ++ " " ++ half)
  | 'R' => some clock
  | 's' => some (toString seconds)
  | 'S' => some (two m.second)
  | 't' => some "\t"
  | 'T' | 'X' => some (clock ++ ":" ++ two m.second)
  | 'u' => some (toString (if m.weekday = 0 then 7 else m.weekday))
  | 'U' => some (two (week m 0))
  | 'V' => some (two (isoWeek m).2)
  | 'w' => some (toString m.weekday)
  | 'W' => some (two (week m 1))
  | 'y' => some (two (m.year % 100))
  | 'Y' => some (toString m.year)
  | 'z' => some "+0000"
  | 'Z' => some "GMT"
  | '%' => some "%"
  | _ => none

/-- The letters that may follow `E`, and those that may follow `O`. -/
def eraLetters : List Char := "cCxXyY".toList

def otherLetters : List Char := "deHImMSuUVwWy".toList

/-- A time as a format describes it, or the letters that are wrong. -/
def dateText (m : Moment) (seconds : Int) : List Char → Except (List Char) String
  | [] => .ok ""
  | '%' :: 'E' :: c :: rest =>
    if eraLetters.contains c then
      return (m.part? seconds c).getD "" ++ (← dateText m seconds rest)
    else .error ('E' :: c :: rest)
  | '%' :: 'O' :: c :: rest =>
    if otherLetters.contains c then
      return (m.part? seconds c).getD "" ++ (← dateText m seconds rest)
    else .error ('O' :: c :: rest)
  | '%' :: c :: rest =>
    match if c == 's' then none else m.part? seconds c with
    | some s => return s ++ (← dateText m seconds rest)
    | none => .error (c :: rest)
  | ['%'] => .error []
  | c :: rest => return String.ofList [c] ++ (← dateText m seconds rest)

/-- The parts of a moment as entries. -/
def Moment.fields (m : Moment) : List (String × Val) := [
  ("year", .int (.ofInt m.year)), ("month", .int (.ofInt m.month)), ("day", .int (.ofInt m.day)),
  ("hour", .int (.ofInt m.hour)), ("min", .int (.ofInt m.minute)), ("sec", .int (.ofInt m.second)),
  ("yday", .int (.ofInt (m.yearday + 1))), ("wday", .int (.ofInt (m.weekday + 1))),
  ("isdst", .bool false)]

def date (args : Array Val) : Script (Array Val) := do
  let format := (← textOr args 0 (.ofString "%c")).chars
  let seconds := (← integerOr args 1 0).toInt
  let format := match format with
    | '!' :: rest => rest
    | cs => cs
  let m := Moment.ofSeconds seconds
  match format with
  | '*' :: 't' :: _ =>
    return #[← newTable (m.fields.foldl (fun (t : Table) (k, v) => t.storeText k v) {})]
  | _ => match dateText m seconds format with
    | .ok s => return #[.str (Bytes.ofChars s.toList)]
    | .error cs =>
      failArgument 1 ("invalid conversion specifier '%" ++ String.ofList cs ++ "'")

/-- A part of a date in a table; its bound is that of a small integer. -/
def dateField (list : Val) (name : String) (missing : Option Int) (delta : Int) : Script Int := do
  let v ← getIndex list (.ofString name)
  match v.toInteger? with
  | some n =>
    let n := n.toInt - delta
    if n < -2147483648 || n > 2147483647 then failCall ("field '" ++ name ++ "' is out-of-bound")
    return n + delta
  | none =>
    if !v.isNil then failCall ("field '" ++ name ++ "' is not an integer")
    match missing with
    | some n => return n
    | none => failCall ("field '" ++ name ++ "' missing in date table")

def time (args : Array Val) : Script (Array Val) := do
  if isAbsent args 0 then return #[.int 0]
  let id ← tableArg args 0
  let list := Val.table id
  let year ← dateField list "year" none 1900
  let month ← dateField list "month" none 1
  let day ← dateField list "day" none 0
  let hour ← dateField list "hour" (some 12) 0
  let minute ← dateField list "min" (some 0) 0
  let second ← dateField list "sec" (some 0) 0
  let t := secondsOf year month day hour minute second
  for (name, v) in (Moment.ofSeconds t).fields do
    setIndex list (.ofString name) v
  return #[.int (.ofInt t)]

/-! ## The system -/

/-- What is answered for something outside. -/
def missing (name : Bytes) : Array Val :=
  #[.nil, .str (name.untilZero ++ .ofString ": No such file or directory"), .int 2]

/-- The categories that a locale can be set for. -/
def localeCategories : List String := ["all", "collate", "ctype", "monetary", "numeric", "time"]

/-- Only the plain locale is there. -/
def setLocale (args : Array Val) : Script (Array Val) := do
  let name ← textOr args 0 (.ofString "C")
  let _ ← choiceArg args 1 (some "all") localeCategories
  if ["", "C", "POSIX"].any fun s => Bytes.ofString s == name then return #[.ofString "C"]
  else return #[.nil]

/-- The functions on the system. -/
def osGroup : FunctionGroup where
  name := "os"
  natives := [
    ⟨"clock", fun _ _ => return #[.num 0]⟩,
    ⟨"date", fun _ args => date args⟩,
    ⟨"difftime", fun _ args => do
      let a ← integerArg args 0
      return #[.num (a.toFloat - (← integerArg args 1).toFloat)]⟩,
    ⟨"execute", fun _ args => do
      if isAbsent args 0 then return truth false
      let _ ← textArg args 0
      return #[.nil, .ofString "exit", .int 127]⟩,
    ⟨"exit", fun _ _ => throw .exhausted⟩,
    ⟨"getenv", fun _ args => do
      let _ ← textArg args 0
      return #[.nil]⟩,
    ⟨"remove", fun _ args => do return missing (← textArg args 0)⟩,
    ⟨"rename", fun _ args => do
      let name ← textArg args 0
      let _ ← textArg args 1
      return missing name⟩,
    ⟨"setlocale", fun _ args => setLocale args⟩,
    ⟨"time", fun _ args => time args⟩,
    ⟨"tmpname", fun _ _ => return #[.ofString "/tmp/lua_000000"]⟩]

/-! ## Files -/

/-- The open files: what scripts read is empty, and what they write goes nowhere. -/
def standardFiles : List (String × Nat) := [("stdin", 0), ("stdout", 1), ("stderr", 2)]

/-- A file among the arguments. -/
def fileArg (args : Array Val) (i : Nat) : Script Nat := do
  match args.getD i .nil with
  | .file n => return n
  | _ => failType args i "FILE*"

/-- A mode in which a file can be opened. -/
def isMode (mode : List Char) : Bool :=
  match mode with
  | c :: rest =>
    let rest := match rest with
      | '+' :: more => more
      | cs => cs
    "rwa".toList.contains c && rest.all (· == 'b')
  | [] => false

def openFile (args : Array Val) : Script (Array Val) := do
  let name ← textArg args 0
  let mode ← textOr args 1 (.ofString "r")
  require (isMode mode.chars) 1 "invalid mode"
  return missing name

/-- What reading in some formats comes to at the end of a file. -/
def readFormats (args : Array Val) (first : Nat) : Script (Array Val) := do
  if args.size ≤ first then return #[.nil]
  let mut results : Array Val := #[]
  for i in [first:args.size] do
    match args.getD i .nil with
    | .str s =>
      let c := Char.ofNat (if s.byteAt 0 == 42 then s.byteAt 1 else s.byteAt 0).toNat
      match c with
      | 'a' => results := results.push (.ofString "")
      | 'n' | 'l' | 'L' => return results.push .nil
      | _ => failArgument (i + 1) "invalid format"
    | _ =>
      let _ ← integerArg args i
      return results.push .nil
  return results

/-- Accepts texts and numbers to be written. -/
def writeTexts (args : Array Val) (first : Nat) (file : Nat) : Script (Array Val) := do
  for i in [first:args.size] do
    let _ ← textArg args i
  return #[.file file]

/-- A file to be read from or written to, which cannot be exchanged for a missing one. -/
def currentFile (file : Nat) (args : Array Val) : Script (Array Val) := do
  match args.getD 0 .nil with
  | .nil => return #[.file file]
  | .file n => return #[.file n]
  | v => match v.text? with
    | some name => raise (.str (name ++ .ofString ": No such file or directory"))
    | none => failType args 0 "FILE*"

/-- The lines of a file that is empty. -/
def noLines : Native := ⟨"lines_next", fun _ _ => return #[.nil]⟩

/-- The methods of open files; `index` is the number of `noLines`. -/
def fileMethods (index : Nat) : List Native := [
  ⟨"read", fun _ args => do
    let _ ← fileArg args 0
    readFormats args 1⟩,
  ⟨"write", fun _ args => do writeTexts args 1 (← fileArg args 0)⟩,
  ⟨"lines", fun _ args => do
    let _ ← fileArg args 0
    return #[.function index]⟩,
  ⟨"flush", fun _ args => do return #[.file (← fileArg args 0)]⟩,
  ⟨"seek", fun _ args => do
    let _ ← fileArg args 0
    return #[.nil, .ofString "Illegal seek", .int 29]⟩,
  ⟨"close", fun _ args => do
    let _ ← fileArg args 0
    return #[.bool true]⟩,
  ⟨"setvbuf", fun _ args => do
    let _ ← fileArg args 0
    return #[.bool true]⟩]

/-- What the text of an open file shows. -/
def fileText : Native := ⟨"__tostring", fun _ args => do
  return #[.ofString ("file (" ++ addressText (0x7f5500000000 + 64 * (← fileArg args 0)) ++ ")")]⟩

/-- The functions on files; `index` is the number of `noLines`. -/
def ioGroup (index : Nat) : FunctionGroup where
  name := "io"
  natives := [
    ⟨"close", fun _ args => do
      if !args.isEmpty then
        let _ ← fileArg args 0
      return #[.bool true]⟩,
    ⟨"flush", fun _ _ => return #[.file 1]⟩,
    ⟨"input", fun _ args => currentFile 0 args⟩,
    ⟨"lines", fun _ args => do
      if isAbsent args 0 then return #[.function index]
      let name ← textArg args 0
      failCallBytes (name.untilZero ++ .ofString ": No such file or directory")⟩,
    ⟨"open", fun _ args => openFile args⟩,
    ⟨"output", fun _ args => currentFile 1 args⟩,
    ⟨"popen", fun _ args => do return missing (← textArg args 0)⟩,
    ⟨"read", fun _ args => readFormats args 0⟩,
    ⟨"tmpfile", fun _ _ => return missing (.ofString "/tmp")⟩,
    ⟨"type", fun _ args => do
      match ← anyArg args 0 with
      | .file _ => return #[.ofString "file"]
      | _ => return #[.nil]⟩,
    ⟨"write", fun _ args => writeTexts args 0 1⟩]
  constants := standardFiles.map fun (name, n) => (name, .file n)

end ScriptHost.TableScript.Builtin.Systems
