import ScriptHost.Proofs.BoundedDepth
import ScriptHost.Proofs.ConfigLines
import ScriptHost.ProtoScript.Report

/-!
# Positions in stack texts

The stack text of an error has one entry on each line.  Functions of the machine have no place; the others have one in
parentheses after the name of the function, or none but the place.  The name may hold anything that does not open a
parenthesis or end the line, so it may itself look like a place, or like another entry.

* `Stack.Entry`, `Stack.written` — the entries of a stack text, and the text.
* `Stack.place?_written`, `Stack.place?_barred` — a place that ends its line is read, and nothing is read across a
  parenthesis.
* `Stack.frame?_line` — what is read of one entry.
* `Script.Bears` — an object that has a stack text, and no position of its own.
* `position_of_stack` — **the position of an error is that of its first entry with a place**.
-/

namespace ScriptHost.ProtoScript

open Text (isBlank isDecimal readWord? Numeral)

namespace Stack

/-! ## Stack texts as they are written -/

/-- The name of a function. -/
structure FunctionName where
  text : List Char
  ne_nil : text ≠ []
  plain : ∀ c ∈ text, c ≠ '(' ∧ c ≠ '\n'

/-- The name of a file. -/
structure FileName where
  text : List Char
  ne_nil : text ≠ []
  plain : ∀ c ∈ text, isFileChar c

/-- A place in a file. -/
structure Place where
  file : FileName
  line : Numeral
  column : Option Numeral

/-- An entry of a stack text. -/
inductive Entry where
  /-- A function of the machine. -/
  | native (name : FunctionName)
  /-- A function of a script, and the place where it is. -/
  | inside (name : FunctionName) (place : Place)
  /-- A place outside all functions. -/
  | direct (place : Place)

/-- Colons, each with a number after it. -/
def Place.numbers (p : Place) : List Char :=
  ':' :: (p.line.digits ++ (p.column.map fun n => ':' :: n.digits).getD [])

/-- A place as it is written. -/
def Place.written (p : Place) : List Char := p.file.text ++ p.numbers

namespace Entry

/-- The place of an entry. -/
def place? : Entry → Option Place
  | .native _ => none
  | .inside _ place | .direct place => some place

/-- What stands on the line before the entry itself. -/
def margin : List Char := "    at ".toList

/-- What stands in parentheses after a name. -/
def enclosed (cs : List Char) : List Char := ' ' :: '(' :: (cs ++ [')'])

/-- The line of an entry. -/
def line : Entry → List Char
  | .native name => margin ++ (name.text ++ enclosed "native".toList)
  | .inside name place => margin ++ (name.text ++ enclosed place.written)
  | .direct place => margin ++ place.written

end Entry

/-- A stack text: each entry is on its own line, of which the last need not be ended. -/
def written (ended : Bool) : List Entry → List Char
  | [] => []
  | e :: rest => e.line ++ if rest.isEmpty && !ended then [] else '\n' :: written ended rest

/-! ## Places are read -/

/-- What may follow on an entry: the end of the text, or the end of the line. -/
def Follows (more : List Char) : Prop := ∀ c ∈ more.head?, c = '\n'

theorem Follows.endsLine {more : List Char} (h : Follows more) : endsLine more = true := by
  cases more with
  | nil => rfl
  | cons c rest =>
    obtain rfl := h c rfl
    have hblank : isBlank '\n' = true := by decide
    rw [Stack.endsLine, List.takeWhile_cons_of_pos hblank]
    split <;> simp

theorem Follows.endsLine_dropClosing {more : List Char} (h : Follows more) :
    Stack.endsLine (dropClosing more) = true := by
  have hself : dropClosing more = more := by
    unfold dropClosing
    split
    · exact absurd (h ')' rfl) (by decide)
    · rfl
  rw [hself, h.endsLine]

theorem number?_digits (n : Numeral) {more : List Char} (h : ∀ c ∈ more.head?, isDecimal c = false) :
    number? (':' :: (n.digits ++ more)) = some (n.digits, more) := by
  rw [number?, Text.takeWhile_run n.isDecimal h, Text.dropWhile_run n.isDecimal h]
  cases hdigits : n.digits with
  | nil => exact absurd hdigits n.ne_nil
  | cons d ds => rfl

theorem number?_eq_none {cs : List Char} (h : ∀ c ∈ cs.head?, c ≠ ':') : number? cs = none := by
  unfold number?
  split
  · exact absurd rfl (h ':' rfl)
  · rfl

/-- The digits of a place that is found. -/
def Place.found (p : Place) : List Char × Option (List Char) := (p.line.digits, p.column.map Numeral.digits)

/-- A place that ends its line is read, in parentheses or not. -/
theorem place?_written (p : Place) {more : List Char} (hmore : ∀ c ∈ more.head?, c = ')' ∨ c = '\n')
    (hend : endsLine (dropClosing more) = true) : Stack.place? (p.written ++ more) = some p.found := by
  have hplain : ∀ c ∈ more.head?, isDecimal c = false ∧ c ≠ ':' := by
    intro c hc
    obtain rfl | rfl := hmore c hc <;> decide
  have hcolon : ∀ rest : List Char, ∀ c ∈ (':' :: rest).head?, isFileChar c = false ∧ isDecimal c = false := by
    rintro rest c ⟨⟩
    decide
  obtain ⟨file, line, column⟩ := p
  have hfile (rest : List Char) :
      (file.text ++ ':' :: rest).takeWhile isFileChar = file.text
      ∧ (file.text ++ ':' :: rest).dropWhile isFileChar = ':' :: rest :=
    ⟨Text.takeWhile_run file.plain fun c hc => (hcolon rest c hc).1,
      Text.dropWhile_run file.plain fun c hc => (hcolon rest c hc).1⟩
  have hname : file.text.isEmpty = false := List.isEmpty_eq_false_iff.2 file.ne_nil
  cases column with
  | none =>
    have hline := number?_digits line fun c hc => (hplain c hc).1
    have hrest : number? more = none := number?_eq_none fun c hc => (hplain c hc).2
    simp [Stack.place?, Place.written, Place.numbers, Place.found, hfile, hname, hline, hrest, hend]
  | some n =>
    have hline := number?_digits line fun c hc => (hcolon (n.digits ++ more) c hc).2
    have hcolumn := number?_digits n fun c hc => (hplain c hc).1
    simp [Stack.place?, Place.written, Place.numbers, Place.found, hfile, hname, hline, hcolumn, hend]

/-! ## Nothing is read across a parenthesis -/

/-- A parenthesis opens on the first line of a text. -/
def Barred (cs : List Char) : Prop := ∃ before after, cs = before ++ '(' :: after ∧ '\n' ∉ before

theorem dropWhile_opening {p : Char → Bool} (hp : p '(' = false) (before after : List Char) :
    (before ++ '(' :: after).dropWhile p = before.dropWhile p ++ '(' :: after := by
  rw [List.dropWhile_append]
  split
  · next hempty => rw [List.isEmpty_iff.1 hempty, List.dropWhile_cons_of_neg (by simp [hp]), List.nil_append]
  · rfl

theorem Barred.dropWhile {cs : List Char} (h : Barred cs) {p : Char → Bool} (hp : p '(' = false) :
    Barred (cs.dropWhile p) := by
  obtain ⟨before, after, rfl, hbefore⟩ := h
  exact ⟨before.dropWhile p, after, dropWhile_opening hp before after,
    fun hmem => hbefore ((List.dropWhile_sublist p).mem hmem)⟩

theorem Barred.tail {c : Char} {cs : List Char} (h : Barred (c :: cs)) (hc : c ≠ '(') : Barred cs := by
  obtain ⟨before, after, heq, hbefore⟩ := h
  cases before with
  | nil => exact absurd (List.cons.inj heq).1 hc
  | cons b before =>
    exact ⟨before, after, (List.cons.inj heq).2, fun hmem => hbefore (List.mem_cons_of_mem _ hmem)⟩

/-- Reading a number leaves the parenthesis ahead. -/
theorem Barred.number {cs digits rest : List Char} (h : Barred cs) (hnumber : number? cs = some (digits, rest)) :
    Barred rest := by
  unfold number? at hnumber
  split at hnumber
  · split at hnumber
    · cases hnumber
    · cases hnumber
      exact (h.tail (by decide)).dropWhile (by decide)
  · cases hnumber

theorem Barred.dropClosing {cs : List Char} (h : Barred cs) : Barred (dropClosing cs) := by
  unfold Stack.dropClosing
  split
  · exact h.tail (by decide)
  · exact h

theorem Barred.endsLine {cs : List Char} (h : Barred cs) : endsLine cs = false := by
  obtain ⟨before', after', hdrop, -⟩ := h.dropWhile (p := isBlank) (by decide)
  obtain ⟨before, after, rfl, hbefore⟩ := h
  have hopening : isBlank '(' = false := by decide
  have htake : '\n' ∉ (before ++ '(' :: after).takeWhile isBlank := by
    intro hmem
    rw [List.takeWhile_append] at hmem
    split at hmem
    · rw [List.takeWhile_cons_of_neg (by simp [hopening]), List.append_nil] at hmem
      exact hbefore hmem
    · exact hbefore ((List.takeWhile_sublist isBlank).mem hmem)
  unfold Stack.endsLine
  split
  · next hnil =>
    rw [hdrop] at hnil
    simp at hnil
  · simpa using htake

/-- No place ends its line before a parenthesis that opens there. -/
theorem place?_barred {cs : List Char} (h : Barred cs) : Stack.place? cs = none := by
  have hfile := h.dropWhile (p := isFileChar) (by decide)
  cases hline : number? (cs.dropWhile isFileChar) with
  | none => simp [Stack.place?, hline]
  | some read =>
    obtain ⟨line, rest⟩ := read
    have hrest := hfile.number hline
    cases hcolumn : number? rest with
    | none => simp [Stack.place?, hline, hcolumn, hrest.dropClosing.endsLine]
    | some read =>
      obtain ⟨column, more⟩ := read
      simp [Stack.place?, hline, hcolumn, (hrest.number hcolumn).dropClosing.endsLine]

/-! ## What is read of an entry -/

/-- What does not open a parenthesis or end a line. -/
def IsPlain (cs : List Char) : Prop := ∀ c ∈ cs, c ≠ '(' ∧ c ≠ '\n'

theorem IsPlain.append {cs ds : List Char} (hcs : IsPlain cs) (hds : IsPlain ds) : IsPlain (cs ++ ds) := by
  intro c hc
  exact (List.mem_append.1 hc).elim (hcs c) (hds c)

theorem isPlain_digits (n : Numeral) : IsPlain n.digits := by
  intro c hc
  have hdigit := n.isDigit c hc
  refine ⟨?_, ?_⟩ <;> rintro rfl <;> revert hdigit <;> decide

theorem Place.isPlain (p : Place) : IsPlain p.written := by
  have hcolon : IsPlain [':'] := by simp [IsPlain]
  have hfile : IsPlain p.file.text := by
    intro c hc
    have hplain := p.file.plain c hc
    refine ⟨?_, ?_⟩ <;> rintro rfl <;> revert hplain <;> decide
  have hcolumn : IsPlain ((p.column.map fun n => ':' :: n.digits).getD []) := by
    cases p.column with
    | none => simp [IsPlain]
    | some n => exact hcolon.append (isPlain_digits n)
  exact hfile.append (hcolon.append ((isPlain_digits p.line).append hcolumn))

theorem Place.dropWhile_blank (p : Place) (more : List Char) :
    (p.written ++ more).dropWhile isBlank = p.written ++ more := by
  rw [Place.written]
  cases hfile : p.file.text with
  | nil => exact absurd hfile p.file.ne_nil
  | cons c rest =>
    have hplain := p.file.plain c (by simp [hfile])
    simp only [isFileChar, Bool.and_eq_true, Bool.not_eq_true'] at hplain
    rw [List.cons_append, List.cons_append, List.dropWhile_cons_of_neg (by simp [hplain])]

theorem afterOpening?_opening {before : List Char} (h : IsPlain before) (after : List Char) :
    afterOpening? (before ++ '(' :: after) = some after := by
  have hdrop : (before ++ '(' :: after).dropWhile (fun c => c != '(' && c != '\n') = '(' :: after := by
    refine Text.dropWhile_run (fun c hc => by simpa using h c hc) ?_
    rintro c ⟨⟩
    decide
  rw [afterOpening?, hdrop]
  rfl

theorem afterOpening?_eq_none {before more : List Char} (h : IsPlain before) (hmore : Follows more) :
    afterOpening? (before ++ more) = none := by
  have hdrop : (before ++ more).dropWhile (fun c => c != '(' && c != '\n') = more := by
    refine Text.dropWhile_run (fun c hc => by simpa using h c hc) ?_
    intro c hc
    rw [hmore c hc]
    decide
  rw [afterOpening?, hdrop]
  cases more with
  | nil => rfl
  | cons c rest =>
    rw [hmore c rfl]
    rfl

/-- An entry is read from what follows `at`: in parentheses, or directly. -/
theorem frame?_margin (cs : List Char) : frame? (Entry.margin ++ cs) =
    ((afterOpening? (cs.dropWhile isBlank)).bind Stack.place?).orElse fun _ => Stack.place? (cs.dropWhile isBlank) := by
  have hblank : isBlank ' ' = true := by decide
  have hletter : ¬ isBlank 'a' := by decide
  have hmargin : Entry.margin ++ cs = ' ' :: ' ' :: ' ' :: ' ' :: 'a' :: 't' :: ' ' :: cs := rfl
  rw [hmargin, frame?]
  simp only [List.dropWhile_cons_of_pos hblank, List.dropWhile_cons_of_neg hletter, hblank, if_true]

/-- After a name, what stands in the parentheses is read, and nothing else. -/
theorem frame?_enclosed {name : List Char} (h : IsPlain name) (cs more : List Char) :
    frame? (Entry.margin ++ (name ++ Entry.enclosed cs) ++ more) = Stack.place? (cs ++ ')' :: more) := by
  have hopening : isBlank '(' = false := by decide
  have hline : Entry.margin ++ (name ++ Entry.enclosed cs) ++ more
      = Entry.margin ++ ((name ++ [' ']) ++ '(' :: (cs ++ ')' :: more)) := by
    simp only [Entry.enclosed, List.append_assoc, List.cons_append, List.nil_append]
  have hname : IsPlain ((name ++ [' ']).dropWhile isBlank) := by
    intro c hc
    exact h.append (by simp [IsPlain]) c ((List.dropWhile_sublist isBlank).mem hc)
  have hbarred (after : List Char) : Barred ((name ++ [' ']).dropWhile isBlank ++ '(' :: after) :=
    ⟨_, _, rfl, fun hmem => (hname _ hmem).2 rfl⟩
  -- If there is no place in the parentheses, one is looked for in the name, which cannot end its line.
  rw [hline, frame?_margin, dropWhile_opening hopening, afterOpening?_opening hname, place?_barred (hbarred _),
    Option.bind_some]
  cases Stack.place? (cs ++ ')' :: more) <;> rfl

theorem place?_native (more : List Char) : Stack.place? ("native".toList ++ ')' :: more) = none := by
  have hnative : ∀ c ∈ "native".toList, isFileChar c := List.all_eq_true.1 (by decide)
  have hclosing : ∀ c ∈ (')' :: more).head?, isFileChar c = false ∧ c ≠ ':' := by
    rintro c ⟨⟩
    decide
  have hrest : number? (')' :: more) = none := number?_eq_none fun c hc => (hclosing c hc).2
  have hdrop := Text.dropWhile_run hnative fun c hc => (hclosing c hc).1
  rw [Stack.place?, hdrop, hrest]
  split <;> rfl

/-- What is read of an entry is its place. -/
theorem frame?_line (e : Entry) {more : List Char} (h : Follows more) :
    frame? (e.line ++ more) = e.place?.map Place.found := by
  cases e with
  | native name =>
    rw [Entry.line, frame?_enclosed name.plain, place?_native]
    rfl
  | inside name place =>
    have hclosing : ∀ c ∈ (')' :: more).head?, c = ')' ∨ c = '\n' := by
      rintro c ⟨⟩
      exact .inl rfl
    rw [Entry.line, frame?_enclosed name.plain, place?_written place hclosing h.endsLine]
    rfl
  | direct place =>
    rw [Entry.line, List.append_assoc, frame?_margin, place.dropWhile_blank, afterOpening?_eq_none place.isPlain h,
      place?_written place (fun c hc => .inr (h c hc)) h.endsLine_dropClosing]
    rfl

/-! ## The first place of a text -/

theorem firstPlace?_line {line : List Char} (hline : '\n' ∉ line) (more : List Char) :
    firstPlace? (line ++ '\n' :: more) = (frame? (line ++ '\n' :: more)).orElse fun _ => firstPlace? more := by
  rw [firstPlace?]
  split
  · next hfound => rw [hfound]; rfl
  · next hnone =>
    rw [hnone]
    split
    · next hsplit => simp [Text.splitLine_eq hline] at hsplit
    · next hsplit =>
      rw [Text.splitLine_eq hline] at hsplit
      cases hsplit
      rfl

theorem firstPlace?_last {line : List Char} (hline : '\n' ∉ line) : firstPlace? line = frame? line := by
  rw [firstPlace?]
  split
  · next hfound => rw [hfound]
  · next hnone =>
    rw [hnone]
    split
    · rfl
    · next hsplit => simp [Text.splitLine_eq_none hline] at hsplit

theorem Entry.notMem_line (e : Entry) : '\n' ∉ e.line := by
  have hmargin : '\n' ∉ margin := by decide
  have henclosed {name cs : List Char} (hname : IsPlain name) (hcs : '\n' ∉ cs) :
      '\n' ∉ margin ++ (name ++ enclosed cs) := by
    have hname' : '\n' ∉ name := fun h => (hname _ h).2 rfl
    simp [enclosed, hmargin, hname', hcs]
  cases e with
  | native name => exact henclosed name.plain (by decide)
  | inside name place => exact henclosed name.plain fun h => (place.isPlain _ h).2 rfl
  | direct place =>
    rw [line, List.mem_append, not_or]
    exact ⟨hmargin, fun h => (place.isPlain _ h).2 rfl⟩

/-- What is read of a stack text is the first place of an entry. -/
theorem firstPlace?_written (ended : Bool) (entries : List Entry) :
    firstPlace? (written ended entries) = (entries.findSome? Entry.place?).map Place.found := by
  induction entries with
  | nil =>
    rw [written, firstPlace?_last List.not_mem_nil]
    rfl
  | cons e rest ih =>
    rw [written, List.findSome?_cons]
    -- The entry may be the last one, on a line that is not ended.
    split
    · next hlast =>
      simp only [Bool.and_eq_true, List.isEmpty_iff] at hlast
      have hread : frame? (e.line ++ []) = e.place?.map Place.found := frame?_line e (by rintro c ⟨⟩)
      rw [List.append_nil] at hread ⊢
      rw [firstPlace?_last e.notMem_line, hread, hlast.1]
      cases e.place? <;> rfl
    · have hread : frame? (e.line ++ '\n' :: written ended rest) = e.place?.map Place.found :=
        frame?_line e (by rintro c ⟨⟩; rfl)
      rw [firstPlace?_line e.notMem_line, hread, ih]
      cases e.place? <;> rfl

theorem position?_written (ended : Bool) (entries : List Entry) :
    position? (String.ofList (written ended entries)) =
      (entries.findSome? Entry.place?).map fun p => (p.line.value, p.column.map Numeral.value) := by
  rw [position?, String.toList_ofList, firstPlace?_written]
  cases entries.findSome? Entry.place? with
  | none => rfl
  | some p =>
    obtain ⟨file, line, column⟩ := p
    cases column <;> simp [Place.found, Text.readWord?_digits]

end Stack

/-! ## Reports -/

namespace Script

variable {α : Type} {calls : Calls} {m m' : Machine} {id : Nat} {name : String}

/-- A thrown object as it is read for a report: when its name and its message have been read, whatever they are and
whatever getters do, its stack is a text, and it has no line number and no column number. -/
structure Bears (calls : Calls) (m : Machine) (id : Nat) (stack : String) (m' : Machine) : Prop where
  reads : ∃ name message m₁ m₂, peekText? (.obj id) "name" calls m = .ok name m₁
    ∧ peekText? (.obj id) "message" calls m₁ = .ok message m₂
    ∧ getName (.obj id) "stack" calls m₂ = .ok (.ofString stack) m'
  line : m'.property? id (.name "lineNumber") = none
  column : m'.property? id (.name "columnNumber") = none

theorem catching_ok {act : Script α} {handle : Val → Script α} {a : α} (h : act calls m = .ok a m') :
    catching act handle calls m = .ok a m' := by
  change EStateM.tryCatch (act calls) _ m = _
  unfold EStateM.tryCatch
  rw [h]

theorem peekText?_ofString {v : Val} {s : String} (h : getName v name calls m = .ok (.ofString s) m') :
    peekText? v name calls m = .ok (some s) m' := by
  have hpeek : peek v name calls m = .ok (.ofString s) m' := catching_ok h
  rw [peekText?, bind_ok hpeek]
  simp only [Val.ofString, exportUnits, Text.Units.strayOffset?_ofString, Text.Units.toString_ofString]
  rfl

/-- What is no text is read as none, and no property runs anything if it has no getter. -/
theorem peekText?_held (calls : Calls) (h : m.ReadsPlainly id (.name name)) :
    ∃ text, peekText? (.obj id) name calls m = .ok text m := by
  have hpeek : peek (.obj id) name calls m = .ok (m.held id (.name name)) m := catching_ok (get_held h)
  rw [peekText?, bind_ok hpeek]
  cases m.held id (.name name) with
  | str u =>
    dsimp only
    generalize exportUnits u = exported
    rcases exported with _ | (_ | _ | _ | _ | _ | _ | _ | _ | _) <;> exact ⟨_, rfl⟩
  | _ => exact ⟨_, rfl⟩

/-- A property that is missing everywhere is read as nothing, and nothing happens. -/
theorem peekWord?_missing (h : m.property? id (.name name) = none) :
    peekWord? (.obj id) name calls m = .ok none m := by
  have hget : getName (.obj id) name calls m = .ok .undefined m := by
    change readSlot (m.property? id (.name name)) (.obj id) calls m = _
    rw [h]
    rfl
  have hpeek : peek (.obj id) name calls m = .ok .undefined m := catching_ok hget
  rw [peekWord?, bind_ok hpeek]
  rfl

/-- Of an object without getters, the stack is what the property holds. -/
theorem Bears.of_held {stack : String} (hplain : ∀ k ∈ ["name", "message", "stack"], m.ReadsPlainly id (.name k))
    (hstack : m.held id (.name "stack") = .ofString stack) (hline : m.property? id (.name "lineNumber") = none)
    (hcolumn : m.property? id (.name "columnNumber") = none) : Bears calls m id stack m := by
  obtain ⟨name, hname⟩ := peekText?_held calls (hplain "name" (by simp))
  obtain ⟨message, hmessage⟩ := peekText?_held calls (hplain "message" (by simp))
  have hread : getName (.obj id) "stack" calls m = .ok (m.held id (.name "stack")) m :=
    get_held (hplain "stack" (by simp))
  rw [hstack] at hread
  exact ⟨⟨name, message, m, m, hname, hmessage, hread⟩, hline, hcolumn⟩

theorem Bears.report {stack : String} (h : Bears calls m id stack m') : ∃ r, report (.obj id) calls m = .ok r m'
    ∧ r.line = ((Stack.position? stack).map (·.1)).getD 1 - 1
    ∧ r.column = ((Stack.position? stack).bind (·.2)).getD 1 - 1 := by
  obtain ⟨⟨name, message, m₁, m₂, hname, hmessage, hstack⟩, hline, hcolumn⟩ := h
  have hobject : (!Val.isObject (.obj id)) = false := rfl
  rw [Script.report, hobject]
  simp only [Bool.false_eq_true, if_false]
  rw [bind_ok hname, bind_ok hmessage, bind_ok (peekText?_ofString hstack), bind_ok (peekWord?_missing hline),
    bind_ok (peekWord?_missing hcolumn)]
  exact ⟨_, rfl, rfl, rfl⟩

end Script

open Stack Script

/-- **The position of an error is that of its first entry with a place.**  Whatever names functions have, the first
place in a stack text is that of the first entry that has one, and there is none if no entry has.  The report of an
object with such a stack, and without a position of its own, has the line and the column of this place, counted from
0, and 0 for each of them that is missing. -/
theorem position_of_stack (ended : Bool) (entries : List Entry) :
    let stack := String.ofList (written ended entries)
    let first := entries.findSome? Entry.place?
    position? stack = first.map (fun p => (p.line.value, p.column.map Numeral.value))
    ∧ ∀ calls m m' id, Bears calls m id stack m' → ∃ r, report (.obj id) calls m = .ok r m'
      ∧ r.line = (first.map fun p => p.line.value - 1).getD 0
      ∧ r.column = ((first.bind Place.column).map fun n => n.value - 1).getD 0 := by
  have hposition := position?_written ended entries
  refine ⟨hposition, ?_⟩
  intro calls m m' id h
  obtain ⟨r, hreport, hline, hcolumn⟩ := h.report
  refine ⟨r, hreport, ?_, ?_⟩
  · rw [hline, hposition]
    cases entries.findSome? Entry.place? <;> rfl
  · rw [hcolumn, hposition]
    cases entries.findSome? Entry.place? with
    | none => rfl
    | some p =>
      obtain ⟨file, line, column⟩ := p
      cases column <;> rfl

/-- An error without a prototype has the properties that are its own. -/
theorem property?_alone {m : Machine} {id : Nat} {o : Obj} (hcell : m.heap[id]? = some o) (hkind : o.kind = .error)
    (hproto : o.proto = none) (k : Key) : m.property? id k = o.named? k := by
  have hown : m.ownProperty? id k = o.named? k := by
    rw [Machine.ownProperty?, Machine.obj_eq hcell]
    simp only [hkind]
  rw [Machine.property?, Machine.findUp, hown, Machine.obj_eq hcell, hproto]
  cases o.named? k <;> rfl

/-- A function of the machine whose name looks like a place, called by a script: the place is that of the script. -/
theorem position_of_stack_imitated :
    let name : FunctionName := ⟨['x', ':', '3', ')', ' '], by decide, by simp⟩
    let file : FileName := ⟨['f', '.', 'j', 's'], by decide, by simp [isFileChar, isBlank]⟩
    let place : Stack.Place := ⟨file, .ofNat 12 (by decide), none⟩
    let stack := String.ofList (written true [.native name, .inside name place])
    let props := #[(Key.name "stack", Property.hidden (.ofString stack))]
    let m : Machine := { heap := #[{ proto := none, kind := .error, props }] }
    ∀ calls, ∃ r, report (.obj 0) calls m = .ok r m ∧ r.line = 11 ∧ r.column = 0 := by
  intro name file place stack props m calls
  have hproperty (k : Key) : m.property? 0 k = props.toList.lookup k :=
    (property?_alone rfl rfl rfl k).trans (Obj.named?_eq_lookup _ k)
  have hbears : Bears calls m 0 stack m := by
    refine .of_held ?_ ?_ ?_ ?_
    · intro s hs getter setter e c h
      rw [hproperty] at h
      change List.lookup _ [_] = _ at h
      rw [List.lookup_cons] at h
      split at h <;> cases h
    · rw [Machine.held, hproperty]
      rfl
    · rw [hproperty]
      rfl
    · rw [hproperty]
      rfl
  exact (position_of_stack true [.native name, .inside name place]).2 calls m m 0 hbears

end ScriptHost.ProtoScript
