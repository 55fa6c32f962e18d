import ScriptHost.Calendar
import ScriptHost.ProtoScript.Builtin.Member

/-!
# `Date`

Times are milliseconds since the start of 1970, and local time is universal time.
-/

namespace ScriptHost.ProtoScript.Builtin.Dates

open Text (Units)

open Calendar
open Script

/-- A time taken apart: year, month from 0, day from 1, hours, minutes, seconds, milliseconds, and
the day of the week. -/
structure Fields where
  year : Int
  month : Int
  day : Int
  hour : Int
  minute : Int
  second : Int
  milli : Int
  weekday : Int

/-- A time taken apart. -/
def fieldsOf (time : Float) : Fields :=
  let t := Decimal.truncated time
  let days := t.fdiv 86400000
  let ms := t - 86400000 * days
  let (year, month, day) := dateOfDays days
  { year, month, day
    hour := ms / 3600000, minute := ms / 60000 % 60, second := ms / 1000 % 60, milli := ms % 1000
    weekday := (days + 4) % 7 }

/-- The greatest distance of a time from 1970. -/
def timeLimit : Float := 8640000000000000

/-- A time within the limits. -/
def clip (t : Float) : Float :=
  if t.isNaN || t.abs > timeLimit then 0.0 / 0.0 else wholePart t + 0.0

/-- A time put together of fields that may lie outside their ranges. -/
def makeTime (fs : Array Float) : Float :=
  if fs.any fun x => x.isNaN || x.isInf then 0.0 / 0.0
  else
    let n (i : Nat) : Int := Decimal.truncated (fs.getD i 0)
    let days := daysToMonth (n 0) (n 1) + n 2 - 1
    Decimal.ofInt (((days * 24 + n 3) * 60 + n 4) * 60000 + n 5 * 1000 + n 6)

def pad (width : Nat) (i : Int) : String := Decimal.padded width i.natAbs

def yearText (y : Int) : String := (if y < 0 then "-" else "") ++ pad 4 y

/-- Which parts of a time a text shows. -/
inductive Shown where
  | both | date | time

/-- The text of a time. -/
def text (time : Float) (shown : Shown) : String :=
  if time.isNaN then "Invalid Date"
  else
    let f := fieldsOf time
    let date := weekdayNames.getD f.weekday.toNat "" ++ " " ++ monthNames.getD f.month.toNat ""
      ++ " " ++ pad 2 f.day ++ " " ++ yearText f.year
    let clock := pad 2 f.hour ++ ":" ++ pad 2 f.minute ++ ":" ++ pad 2 f.second ++ " GMT+0000"
    match shown with
    | .both => date ++ " " ++ clock
    | .date => date
    | .time => clock

def utcText (time : Float) : String :=
  if time.isNaN then "Invalid Date"
  else
    let f := fieldsOf time
    weekdayNames.getD f.weekday.toNat "" ++ ", " ++ pad 2 f.day ++ " "
      ++ monthNames.getD f.month.toNat "" ++ " " ++ yearText f.year ++ " " ++ pad 2 f.hour ++ ":"
      ++ pad 2 f.minute ++ ":" ++ pad 2 f.second ++ " GMT"

/-- The text of a time in the international form. -/
def isoText (time : Float) : String :=
  let f := fieldsOf time
  let year := if 0 ≤ f.year && f.year ≤ 9999 then pad 4 f.year
    else (if f.year < 0 then "-" else "+") ++ pad 6 f.year
  year ++ "-" ++ pad 2 (f.month + 1) ++ "-" ++ pad 2 f.day ++ "T" ++ pad 2 f.hour ++ ":"
    ++ pad 2 f.minute ++ ":" ++ pad 2 f.second ++ "." ++ pad 3 f.milli ++ "Z"

/-- The text of a time as it is usual in places where the month comes first. -/
def localeText (time : Float) (shown : Shown) : String :=
  if time.isNaN then "Invalid Date"
  else
    let f := fieldsOf time
    let date := pad 2 (f.month + 1) ++ "/" ++ pad 2 f.day ++ "/" ++ yearText f.year
    let hour := if f.hour % 12 == 0 then 12 else f.hour % 12
    let clock := pad 2 hour ++ ":" ++ pad 2 f.minute ++ ":" ++ pad 2 f.second
      ++ (if f.hour < 12 then " AM" else " PM")
    match shown with
    | .both => date ++ ", " ++ clock
    | .date => date
    | .time => clock

/-! ## Reading -/

/-- Reads exactly so many digits. -/
def fixedDigits? (n : Nat) (cs : List Char) : Option (Int × List Char) :=
  let ds := cs.take n
  if ds.length == n then (digitsValue? 10 ds).map fun v => ((v : Int), cs.drop n) else none

/-- Reads a sign or `Z` and what offset from universal time it gives, in minutes. -/
def zone? (cs : List Char) : Option (Int × List Char) :=
  match cs with
  | 'Z' :: rest => some (0, rest)
  | s :: rest =>
    if s == '+' || s == '-' then do
      let (h, rest) ← fixedDigits? 2 rest
      let rest := match rest with
        | ':' :: more => more
        | _ => rest
      let (m, rest) ← fixedDigits? 2 rest
      let v := 60 * h + m
      some (if s == '-' then -v else v, rest)
    else none
  | [] => none

/-- Reads the international form. -/
def readIso? (cs : List Char) : Option Float := do
  let (year, rest) ← match cs with
    | '+' :: more => fixedDigits? 6 more
    | '-' :: more => (fixedDigits? 6 more).map fun (y, r) => (-y, r)
    | _ => fixedDigits? 4 cs
  let part (c : Char) (n : Nat) (default0 : Int) (cs : List Char) : Int × List Char :=
    match cs with
    | d :: more => if d == c then (fixedDigits? n more).getD (default0, cs) else (default0, cs)
    | [] => (default0, cs)
  let (month, rest) := part '-' 2 1 rest
  let (day, rest) := part '-' 2 1 rest
  let (clock, rest) ← match rest with
    | 'T' :: more | ' ' :: more => do
      let (h, more) ← fixedDigits? 2 more
      let (m, more) ← match more with
        | ':' :: more => fixedDigits? 2 more
        | _ => none
      let (s, more) := part ':' 2 0 more
      let (ms, more) := match more with
        | '.' :: more =>
          let ds := more.takeWhile Char.isDigit
          let three := ((ds ++ ['0', '0', '0']).take 3)
          (((digitsValue? 10 three).getD 0 : Int), more.dropWhile Char.isDigit)
        | _ => (0, more)
      some ([h, m, s, ms], more)
    | _ => some ([0, 0, 0, 0], rest)
  let (offset, rest) := (zone? rest).getD (0, rest)
  if !rest.isEmpty || month < 1 || month > 12 || day < 1 || day > 31 then none
  else
    let fs := [year, month - 1, day] ++ clock
    some (makeTime (fs.map Decimal.ofInt).toArray - Decimal.ofInt (offset * 60000))

/-- The words of a text: runs of letters, and numbers with what joins them. -/
def words (s : String) : List String :=
  ((String.ofList (s.toList.map fun c => if c == ',' then ' ' else c)).splitOn " ").filter
    (!·.isEmpty)

/-- Reads the forms with names of months. -/
def readNamed? (s : String) : Option Float := do
  let ws := words s
  let month ← ws.findSome? fun w =>
    monthNames.findIdx? fun m => (w.take 3).toString.toLower == m.toLower
  let numbers := ws.filterMap fun w => w.toNat?
  let (day, year) ← match numbers with
    | a :: b :: _ => some (a, b)
    | _ => none
  let clock := ws.find? fun w => w.contains ':'
  let parts := match clock with
    | some c => ((c.splitOn ":").filterMap String.toNat?)
    | none => []
  let offset := (ws.findSome? fun w =>
    if w.startsWith "GMT" || w.startsWith "UTC" then zone? (w.toList.drop 3)
    else if w.startsWith "+" || w.startsWith "-" then zone? w.toList else none).map (·.1)
  let n (i : Nat) : Int := (parts.getD i 0 : Nat)
  let fs : List Int := [(year : Int), (month : Int), (day : Int), n 0, n 1, n 2, 0]
  some (makeTime (fs.map Decimal.ofInt).toArray - Decimal.ofInt (offset.getD 0 * 60000))

def read (s : String) : Float :=
  match readIso? s.toList with
  | some t => clip t
  | none => match readNamed? s with
    | some t => clip t
    | none => 0.0 / 0.0

/-! ## The class -/

def timeOf (this : Val) : Script Float := do
  match this with
  | .obj id => match (← obj id).kind with
    | .date t => return t
    | _ => throwType "not a Date object"
  | _ => throwType "not a Date object"

def setTime (this : Val) (t : Float) : Script Val := do
  match this with
  | .obj id => updateObj id fun o => { o with kind := .date t }
  | _ => pure ()
  return .num t

/-- A time of separate arguments; years below one hundred belong to the last century. -/
def ofParts (args : Array Val) : Script Float := do
  let defaults := #[0.0 / 0.0, 0, 1, 0, 0, 0, 0]
  let mut fs : Array Float := #[]
  for i in [0:7] do
    let x ← if i < args.size then toNumber (arg args i) else pure (defaults.getD i 0)
    fs := fs.push (if x.isNaN then x else wholePart x)
  let y := fs.getD 0 0
  if y ≥ 0 && y < 100 then fs := fs.setIfInBounds 0 (y + 1900)
  return makeTime fs

/-- A getter of one field, for local and for universal time. -/
def field (name : String) (read : Fields → Int) : List Member :=
  let run (this : Val) : Script Val := do
    let t ← timeOf this
    return if t.isNaN then .num t else .ofInt (read (fieldsOf t))
  [.method ("get" ++ name) 0 fun this _ => run this,
    .method ("getUTC" ++ name) 0 fun this _ => run this]

/-- A setter of fields from a first one on, for local and for universal time. -/
def fieldSetter (name : String) (first count : Nat) : List Member :=
  let run (this : Val) (args : Array Val) : Script Val := do
    let t ← timeOf this
    let base := if t.isNaN && first == 0 then 0.0 else t
    let f := fieldsOf (if base.isNaN then 0 else base)
    let mut fs : Array Float :=
      (#[f.year, f.month, f.day, f.hour, f.minute, f.second, f.milli]).map Decimal.ofInt
    for i in [0:count] do
      if i < args.size then
        let x ← toNumber (arg args i)
        fs := fs.setIfInBounds (first + i) (if x.isNaN then x else wholePart x)
    if args.isEmpty || base.isNaN then setTime this (0.0 / 0.0)
    else setTime this (clip (makeTime fs))
  [.method ("set" ++ name) count run, .method ("setUTC" ++ name) count run]

/-- A method that writes the time. -/
def writer (name : String) (write : Float → String) : Member :=
  .method name 0 fun this _ => do return .ofString (write (← timeOf this))

def toIso (this : Val) : Script Val := do
  let t ← timeOf this
  if t.isNaN then throwRange "Date value is NaN"
  return .ofString (isoText t)

def spec : ClassSpec where
  proto := .dateProto
  constructor := ⟨"Date", 7, fun _ args target => do
    if target.isUndefined then return .ofString (text 0 .both)
    let t ← match args.size with
      | 0 => pure 0.0
      | 1 => do
        let v := arg args 0
        let own ← match v with
          | .obj id => match (← obj id).kind with
            | .date t => pure (some t)
            | _ => pure none
          | _ => pure none
        match own with
        | some t => pure t
        | none => match ← toPrimitive v with
          | .str u => pure (read u.toString)
          | p => do pure (clip (← toNumber p))
      | _ => do pure (clip (← ofParts args))
    allocVal { proto := some (← protoOf target .dateProto), kind := .date t }⟩
  statics := [
    .method "now" 0 fun _ _ => return .num 0,
    .method "parse" 1 fun _ args => do return .num (read (← toText (arg args 0))),
    .method "UTC" 7 fun _ args => do return .num (clip (← ofParts args))]
  methods := [
    .method "valueOf" 0 fun this _ => do return .num (← timeOf this),
    .method "getTime" 0 fun this _ => do return .num (← timeOf this),
    .method "getTimezoneOffset" 0 fun this _ => do
      let t ← timeOf this
      return .num (if t.isNaN then t else 0),
    .method "getYear" 0 fun this _ => do
      let t ← timeOf this
      return if t.isNaN then .num t else .ofInt ((fieldsOf t).year - 1900),
    .method "setTime" 1 fun this args => do
      let _ ← timeOf this
      setTime this (clip (← toNumber (arg args 0))),
    writer "toString" (text · .both),
    writer "toDateString" (text · .date),
    writer "toTimeString" (text · .time),
    writer "toUTCString" utcText,
    writer "toGMTString" utcText,
    writer "toLocaleString" (localeText · .both),
    writer "toLocaleDateString" (localeText · .date),
    writer "toLocaleTimeString" (localeText · .time),
    .method "toISOString" 0 fun this _ => toIso this,
    .method "toJSON" 1 fun this _ => do
      let id ← toObject this
      match ← toPrimitive (.obj id) .number with
      | .num x => if !x.isFinite then return .null else invoke (.obj id) "toISOString" #[]
      | _ => invoke (.obj id) "toISOString" #[],
    .symbolMethod .toPrimitive 1 fun this args => do
      if !this.isObject then throwType "not an object"
      match arg args 0 with
      | .str u =>
        if u == Units.ofString "number" then ordinaryPrimitive this ["valueOf", "toString"]
        else ordinaryPrimitive this ["toString", "valueOf"]
      | _ => throwType "invalid hint"]
    ++ field "FullYear" (·.year) ++ field "Month" (·.month) ++ field "Date" (·.day)
    ++ field "Hours" (·.hour) ++ field "Minutes" (·.minute) ++ field "Seconds" (·.second)
    ++ field "Milliseconds" (·.milli) ++ field "Day" (·.weekday)
    ++ fieldSetter "FullYear" 0 3 ++ fieldSetter "Month" 1 2 ++ fieldSetter "Date" 2 1
    ++ fieldSetter "Hours" 3 4 ++ fieldSetter "Minutes" 4 3 ++ fieldSetter "Seconds" 5 2
    ++ fieldSetter "Milliseconds" 6 1

end ScriptHost.ProtoScript.Builtin.Dates
