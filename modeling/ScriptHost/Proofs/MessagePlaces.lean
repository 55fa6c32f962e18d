import ScriptHost.Proofs.ConfigLines
import ScriptHost.TableScript.Report

/-!
# Places in error messages

The text of an error names places: `jst:`, digits and a colon, where a word may begin.  The first line names the place
of the error, the lines after it may name more, and the message itself may hold what looks like a place.  The first
place of the whole text gives the line of the report, and what follows the first place of the first line is its
description.

* `Place.Occurs`, `Place.First` — a place in a text, and the first one.
* `Place.findFrom?_eq_some_iff`, `Place.findFrom?_eq_none_iff` — the place that is found is the first.
* `Place.findFrom?_append` — no place goes on with a character of another kind.
* `FirstLine` — the first line of a text and the lines after it.
* `faultReport_places` — **the line and the description of a report**.
-/

namespace ScriptHost.TableScript

open Text (isBlank isDecimal readWord? linesOf dropReturn Numeral)
open Text.Words (isWordChar)

namespace Place

/-! ## Places in texts -/

/-- A place as it is written. -/
def written (digits : List Char) : List Char := 'j' :: 's' :: 't' :: ':' :: (digits ++ [':'])

/-- Whether a text ends in a word; `inWord` tells it of an empty one. -/
def endsInWord (inWord : Bool) (before : List Char) : Bool := (before.getLast?.map isWordChar).getD inWord

/-- A place stands in a text, where a word may begin; `inWord` tells whether the text goes on with a word. -/
structure Occurs (inWord : Bool) (cs before digits after : List Char) : Prop where
  eq : cs = before ++ (written digits ++ after)
  ne_nil : digits ≠ []
  decimal : ∀ d ∈ digits, isDecimal d
  begins : endsInWord inWord before = false

/-- The first place in a text. -/
structure First (inWord : Bool) (cs before digits after : List Char) : Prop where
  occurs : Occurs inWord cs before digits after
  least : ∀ {before' digits' after' : List Char}, Occurs inWord cs before' digits' after' →
    before.length ≤ before'.length

/-- There is no place in a text. -/
def Lacks (cs : List Char) : Prop := ∀ before digits after, ¬ Occurs false cs before digits after

theorem endsInWord_eq_false {before : List Char} (h : ∀ c ∈ before.getLast?, isWordChar c = false) :
    endsInWord false before = false := by
  unfold endsInWord
  cases hlast : before.getLast? with
  | none => rfl
  | some c => exact h c hlast

theorem endsInWord_cons (inWord : Bool) (c : Char) (before : List Char) :
    endsInWord inWord (c :: before) = endsInWord (isWordChar c) before := by
  unfold endsInWord
  rw [List.getLast?_cons]
  cases before.getLast? <;> rfl

/-- A place is read at the start of a text just if it is written there. -/
theorem read?_eq_some_iff {cs digits after : List Char} : read? cs = some (digits, after) ↔
    cs = written digits ++ after ∧ digits ≠ [] ∧ ∀ d ∈ digits, isDecimal d := by
  have hname : (chunkName ++ ":").toList = ['j', 's', 't', ':'] := by decide
  unfold read?
  rw [hname]
  constructor
  · intro h
    dsimp only at h
    split at h
    · cases h
    · next hstart =>
      simp only [Bool.not_eq_true', Bool.not_eq_false, List.isPrefixOf_iff_prefix] at hstart
      obtain ⟨rest, rfl⟩ := hstart
      rw [List.drop_left] at h
      split at h
      · cases h
      · next hcolon hne =>
        cases h
        refine ⟨?_, hne, fun d hd => List.mem_takeWhile_imp hd⟩
        have hrest : rest = rest.takeWhile isDecimal ++ ':' :: after := by
          rw [← hcolon, List.takeWhile_append_dropWhile]
        simpa [written] using hrest
      · cases h
  · rintro ⟨rfl, hne, hdigits⟩
    have hrest : (written digits ++ after).drop 4 = digits ++ ':' :: after := by simp [written]
    have hstart : ['j', 's', 't', ':'].isPrefixOf (written digits ++ after) = true := by simp [written]
    have hcolon : ∀ c ∈ (':' :: after).head?, isDecimal c = false := by
      rintro c ⟨⟩
      decide
    simp only [hstart, Bool.not_true, Bool.false_eq_true, if_false, List.length_cons, List.length_nil, hrest,
      Text.takeWhile_run hdigits hcolon, Text.dropWhile_run hdigits hcolon]

theorem occurs_cons_iff {inWord : Bool} {c : Char} {cs before digits after : List Char} :
    Occurs inWord (c :: cs) before digits after ↔
      before = [] ∧ inWord = false ∧ read? (c :: cs) = some (digits, after)
      ∨ ∃ before', before = c :: before' ∧ Occurs (isWordChar c) cs before' digits after := by
  rw [read?_eq_some_iff]
  constructor
  · rintro ⟨heq, hne, hdigits, hbegins⟩
    cases before with
    | nil => exact .inl ⟨rfl, hbegins, heq, hne, hdigits⟩
    | cons b before =>
      obtain ⟨rfl, rfl⟩ := List.cons.inj heq
      rw [endsInWord_cons] at hbegins
      exact .inr ⟨before, rfl, rfl, hne, hdigits, hbegins⟩
  · rintro (⟨rfl, hbegins, heq, hne, hdigits⟩ | ⟨before, rfl, rfl, hne, hdigits, hbegins⟩)
    · exact ⟨heq, hne, hdigits, hbegins⟩
    · exact ⟨rfl, hne, hdigits, by rwa [endsInWord_cons]⟩

/-! ## The first place is found -/

theorem findFrom?_cons_of_read {c : Char} {cs digits after : List Char} (h : read? (c :: cs) = some (digits, after)) :
    findFrom? false (c :: cs) = some (digits, after) := by
  rw [findFrom?]
  simp only [Bool.false_eq_true, if_false, h]

theorem findFrom?_cons_of_none {inWord : Bool} {c : Char} {cs : List Char}
    (h : inWord = false → read? (c :: cs) = none) : findFrom? inWord (c :: cs) = findFrom? (isWordChar c) cs := by
  rw [findFrom?]
  cases inWord with
  | true => rfl
  | false => simp only [Bool.false_eq_true, if_false, h rfl]

theorem findFrom?_cons_eq_none {inWord : Bool} {c : Char} {cs : List Char} (h : findFrom? inWord (c :: cs) = none) :
    (inWord = false → read? (c :: cs) = none) ∧ findFrom? (isWordChar c) cs = none := by
  have hread : inWord = false → read? (c :: cs) = none := by
    rintro rfl
    rw [Option.eq_none_iff_forall_ne_some]
    rintro ⟨digits, after⟩ hsome
    rw [findFrom?_cons_of_read hsome] at h
    cases h
  rw [findFrom?_cons_of_none hread] at h
  exact ⟨hread, h⟩

/-- There is no place in a text, or the first one is found. -/
theorem findFrom?_spec (inWord : Bool) (cs : List Char) :
    findFrom? inWord cs = none ∧ (∀ before digits after, ¬ Occurs inWord cs before digits after)
    ∨ ∃ before digits after,
      findFrom? inWord cs = some (digits, after) ∧ First inWord cs before digits after := by
  induction cs generalizing inWord with
  | nil =>
    refine .inl ⟨rfl, ?_⟩
    rintro before digits after ⟨heq, -, -, -⟩
    simp [written] at heq
  | cons c cs ih =>
    -- No place begins with this character, so all places are later ones; or the first one does.
    by_cases hread : inWord = false → read? (c :: cs) = none
    · rw [findFrom?_cons_of_none hread]
      have hlater {before digits after : List Char} (h : Occurs inWord (c :: cs) before digits after) :
          ∃ before', before = c :: before' ∧ Occurs (isWordChar c) cs before' digits after := by
        refine (occurs_cons_iff.1 h).resolve_left ?_
        rintro ⟨-, hbegins, hsome⟩
        rw [hread hbegins] at hsome
        cases hsome
      obtain ⟨hnone, hlacks⟩ | ⟨before, digits, after, hsome, hfirst⟩ := ih (isWordChar c)
      · refine .inl ⟨hnone, ?_⟩
        intro before digits after h
        obtain ⟨before', -, hoccurs⟩ := hlater h
        exact hlacks _ _ _ hoccurs
      · have hoccurs : Occurs inWord (c :: cs) (c :: before) digits after :=
          occurs_cons_iff.2 (.inr ⟨before, rfl, hfirst.occurs⟩)
        refine .inr ⟨c :: before, digits, after, hsome, hoccurs, ?_⟩
        intro before' digits' after' h
        obtain ⟨rest, rfl, hoccurs⟩ := hlater h
        exact Nat.succ_le_succ (hfirst.least hoccurs)
    · rw [Classical.not_imp] at hread
      obtain ⟨rfl, hsome⟩ := hread
      obtain ⟨⟨digits, after⟩, hsome⟩ := Option.ne_none_iff_exists'.1 hsome
      exact .inr ⟨[], digits, after, findFrom?_cons_of_read hsome, occurs_cons_iff.2 (.inl ⟨rfl, rfl, hsome⟩),
        fun _ => Nat.zero_le _⟩

theorem findFrom?_eq_none_iff {inWord : Bool} {cs : List Char} :
    findFrom? inWord cs = none ↔ ∀ before digits after, ¬ Occurs inWord cs before digits after := by
  obtain ⟨hnone, hlacks⟩ | ⟨before, digits, after, hsome, hfirst⟩ := findFrom?_spec inWord cs
  · exact iff_of_true hnone hlacks
  · refine iff_of_false (by simp [hsome]) ?_
    intro hlacks
    exact hlacks _ _ _ hfirst.occurs

/-- There is one first place. -/
theorem First.unique {inWord : Bool} {cs before digits after before' digits' after' : List Char}
    (h : First inWord cs before digits after) (h' : First inWord cs before' digits' after') :
    digits = digits' ∧ after = after' := by
  have hlength := Nat.le_antisymm (h.least h'.occurs) (h'.least h.occurs)
  have heq := (List.append_inj (h.occurs.eq.symm.trans h'.occurs.eq) hlength).2
  have hread : read? (written digits ++ after) = some (digits, after) :=
    read?_eq_some_iff.2 ⟨rfl, h.occurs.ne_nil, h.occurs.decimal⟩
  have hread' : read? (written digits ++ after) = some (digits', after') :=
    read?_eq_some_iff.2 ⟨heq, h'.occurs.ne_nil, h'.occurs.decimal⟩
  cases hread.symm.trans hread'
  exact ⟨rfl, rfl⟩

theorem findFrom?_eq_some_iff {inWord : Bool} {cs digits after : List Char} :
    findFrom? inWord cs = some (digits, after) ↔ ∃ before, First inWord cs before digits after := by
  obtain ⟨hnone, hlacks⟩ | ⟨before, digits', after', hsome, hfirst⟩ := findFrom?_spec inWord cs
  · refine iff_of_false (by simp [hnone]) ?_
    rintro ⟨before, h⟩
    exact hlacks _ _ _ h.occurs
  · rw [hsome]
    constructor
    · rintro ⟨⟩
      exact ⟨before, hfirst⟩
    · rintro ⟨before', h⟩
      obtain ⟨rfl, rfl⟩ := hfirst.unique h
      rfl

theorem lacks_iff {cs : List Char} : Lacks cs ↔ find? cs = none := findFrom?_eq_none_iff.symm

/-! ## Places in parts of a text -/

/-- A character that no place has after its first one. -/
def IsApart (c : Char) : Prop := c ∉ ['s', 't', ':'] ∧ isDecimal c = false

instance : DecidablePred IsApart := fun c => inferInstanceAs (Decidable (c ∉ ['s', 't', ':'] ∧ isDecimal c = false))

theorem IsApart.notMem {c : Char} (h : IsApart c) {digits : List Char} (hdigits : ∀ d ∈ digits, isDecimal d) :
    c ∉ 's' :: 't' :: ':' :: (digits ++ [':']) := by
  have hother : c ∉ digits := by
    intro hc
    have hdecimal := hdigits c hc
    rw [h.2] at hdecimal
    cases hdecimal
  have hmarks := h.1
  simp only [List.mem_cons, List.not_mem_nil, or_false, not_or] at hmarks
  simp [hmarks, hother]

/-- What is no place does not become one by what follows such a character. -/
theorem read?_append {c : Char} (hc : IsApart c) {q : Char} {qs : List Char} (h : read? (q :: qs) = none)
    (more : List Char) : read? (q :: (qs ++ c :: more)) = none := by
  have hnot (digits after : List Char) : read? (q :: qs) ≠ some (digits, after) := by simp [h]
  rw [Option.eq_none_iff_forall_ne_some]
  rintro ⟨digits, after⟩ hsome
  obtain ⟨heq, hne, hdigits⟩ := read?_eq_some_iff.1 hsome
  obtain ⟨rfl, htail⟩ := List.cons.inj heq
  -- The place ends before the character, at it, or after it.
  obtain ⟨middle, hmiddle, hend⟩ | ⟨middle, rfl, -⟩ := List.append_eq_append_iff.1 htail
  · cases middle with
    | nil =>
      rw [List.append_nil] at hmiddle
      exact hnot digits [] (read?_eq_some_iff.2 ⟨by simp [written, ← hmiddle], hne, hdigits⟩)
    | cons d middle =>
      obtain ⟨rfl, -⟩ := List.cons.inj hend
      exact hc.notMem hdigits (by simp [hmiddle])
  · exact hnot digits middle (read?_eq_some_iff.2 ⟨rfl, hne, hdigits⟩)

/-- A text without places is passed over, if such a character follows. -/
theorem findFrom?_append {inWord : Bool} {c : Char} (hc : IsApart c) {p : List Char} (h : findFrom? inWord p = none)
    (more : List Char) : findFrom? inWord (p ++ c :: more) = findFrom? (endsInWord inWord p) (c :: more) := by
  induction p generalizing inWord with
  | nil => rfl
  | cons q p ih =>
    obtain ⟨hread, hrest⟩ := findFrom?_cons_eq_none h
    rw [List.cons_append, findFrom?_cons_of_none fun hbegins => read?_append hc (hread hbegins) more, ih hrest,
      endsInWord_cons]

/-- A place after a text without places is found, if a word may begin there. -/
theorem find?_append_written {p : List Char} (hp : Lacks p) (hend : endsInWord false p = false) (n : Numeral)
    (after : List Char) : find? (p ++ (written n.digits ++ after)) = some (n.digits, after) := by
  have hskip := findFrom?_append (show IsApart 'j' by decide) (lacks_iff.1 hp)
  rw [find?, written, List.cons_append, hskip, hend]
  exact findFrom?_cons_of_read (read?_eq_some_iff.2 ⟨rfl, n.ne_nil, n.isDecimal⟩)

/-- A line without places is passed over. -/
theorem find?_line {line : List Char} (h : Lacks line) (later : List Char) :
    find? (line ++ '\n' :: later) = find? later := by
  have hread : read? ('\n' :: later) = none := by
    rw [Option.eq_none_iff_forall_ne_some]
    rintro ⟨digits, after⟩ hsome
    cases (read?_eq_some_iff.1 hsome).1
  have hword : isWordChar '\n' = false := by decide
  rw [find?, findFrom?_append (by decide) (lacks_iff.1 h), findFrom?_cons_of_none fun _ => hread, hword, find?]

theorem lacks_return {line : List Char} (h : Lacks line) : Lacks (line ++ ['\r']) := by
  have hread : read? ['\r'] = none := by decide
  rw [lacks_iff, find?, findFrom?_append (by decide) (lacks_iff.1 h), findFrom?_cons_of_none fun _ => hread]
  rfl

end Place

open Place

/-! ## Reports -/

/-- The first line of a text, and what follows the end of that line: nothing, a line feed, or one after a carriage
return. -/
inductive FirstLine : List Char → List Char → List Char → Prop where
  | last {line : List Char} (h : '\n' ∉ line) : FirstLine line line []
  | fed {line later : List Char} (h : '\n' ∉ line) (hreturn : line.getLast? ≠ some '\r') :
    FirstLine (line ++ '\n' :: later) line later
  | returned {line later : List Char} (h : '\n' ∉ line) : FirstLine (line ++ ['\r'] ++ '\n' :: later) line later

theorem dropReturn_eq_self {line : List Char} (h : line.getLast? ≠ some '\r') : dropReturn line = line := by
  unfold dropReturn
  split
  · next rest hreverse =>
    refine absurd ?_ h
    rw [List.getLast?_eq_head?_reverse, hreverse]
    rfl
  · rfl

theorem FirstLine.headD_linesOf {text line later : List Char} (h : FirstLine text line later) :
    (linesOf text).headD [] = line := by
  cases h with
  | last hline =>
    rw [Text.linesOf_last hline]
    cases text <;> rfl
  | fed hline hreturn =>
    rw [Text.linesOf_line hline, List.headD_cons, dropReturn_eq_self hreturn]
  | returned hline =>
    have hreturned : '\n' ∉ line ++ ['\r'] := by simp [hline]
    rw [Text.linesOf_line hreturned, List.headD_cons, dropReturn, List.reverse_append]
    simp

theorem FirstLine.find?_eq {text line later : List Char} (h : FirstLine text line later) (hlacks : Lacks line) :
    find? text = find? later := by
  cases h with
  | last hline => exact lacks_iff.1 hlacks
  | fed hline hreturn => exact find?_line hlacks later
  | returned hline => exact find?_line (lacks_return hlacks) later

theorem description_of_lacks {line : List Char} (h : Lacks line) : description line = String.ofList line := by
  simp only [description, lacks_iff.1 h]

theorem linesOf_message {p d : List Char} (n : Numeral) (hp : '\n' ∉ p) (hd : '\n' ∉ d)
    (hlast : ∀ c ∈ d.getLast?, isBlank c = false) (rest : List Char) :
    (linesOf (p ++ (written n.digits ++ ' ' :: d) ++ '\n' :: rest)).headD [] = p ++ (written n.digits ++ ' ' :: d) := by
  have hdigits : '\n' ∉ n.digits := fun h => absurd (n.isDigit _ h) (by decide)
  have hline : '\n' ∉ p ++ (written n.digits ++ ' ' :: d) := by simp [written, hp, hd, hdigits]
  have hreturn : (p ++ (written n.digits ++ ' ' :: d)).getLast? ≠ some '\r' := by
    rw [List.getLast?_append, List.getLast?_append, List.getLast?_cons, Option.some_or, Option.some_or]
    intro h
    cases hd : d.getLast? with
    | none => simp [hd] at h
    | some c =>
      have hblank := hlast c hd
      simp only [hd, Option.getD_some, Option.some.injEq] at h
      rw [h] at hblank
      revert hblank
      decide
  rw [Text.linesOf_line hline, List.headD_cons, dropReturn_eq_self hreturn]

theorem line_faultReport (kind : String) (cs : List Char) :
    (faultReport kind (String.ofList cs)).line = ((find? cs).bind fun p => readWord? p.1).getD 1 - 1 := by
  simp only [faultReport, String.toList_ofList]

theorem description_faultReport (kind : String) (cs : List Char) :
    (faultReport kind (String.ofList cs)).description = description ((linesOf cs).headD []) := by
  simp only [faultReport, String.toList_ofList]

/-- **The line and the description of a report.**  A message with a place after a prefix that has none, and from which
no word goes on, is reported for the line of that place, counted from 0, with what the first line says after it,
whatever places the message itself and the lines after it seem to name.  A message whose first line has no place is
reported with the whole of it, for the line of the first place in the later lines, or for the first line if there is
no such place or its digits are no number below 2^32. -/
theorem faultReport_places (kind : String) :
    (∀ (p d rest : List Char) (n : Numeral), Lacks p → (∀ c ∈ p.getLast?, isWordChar c = false) →
      '\n' ∉ p → '\n' ∉ d → (∀ c ∈ d.head?, isBlank c = false) → (∀ c ∈ d.getLast?, isBlank c = false) →
      let r := faultReport kind (String.ofList (p ++ (written n.digits ++ ' ' :: d) ++ '\n' :: rest))
      r.line = n.value - 1 ∧ r.column = 0 ∧ r.description = String.ofList d)
    ∧ ∀ text line later, FirstLine text line later → Lacks line →
      let r := faultReport kind (String.ofList text)
      r.description = String.ofList line ∧ r.column = 0 ∧ (Lacks later → r.line = 0)
      ∧ ∀ before digits after, First false later before digits after →
        (∀ n : Numeral, n.digits = digits → r.line = n.value - 1)
        ∧ ((∀ n : Numeral, n.digits ≠ digits) → r.line = 0) := by
  refine ⟨?_, ?_⟩
  · intro p d rest n hp hend hpline hdline hstart hlast
    have hbegins := endsInWord_eq_false hend
    have hblank : (' ' :: d).dropWhile isBlank = d :=
      Text.dropWhile_run (List.forall_mem_singleton.2 (by decide : isBlank ' ' = true)) hstart
    refine ⟨?_, rfl, ?_⟩
    · rw [line_faultReport, List.append_assoc, List.append_assoc, find?_append_written hp hbegins, Option.bind_some,
        Text.readWord?_digits, Option.getD_some]
    · rw [description_faultReport, linesOf_message n hpline hdline hlast]
      simp only [description, find?_append_written hp hbegins, hblank]
  · intro text line later hfirst hlacks
    refine ⟨?_, rfl, ?_, ?_⟩
    · rw [description_faultReport, hfirst.headD_linesOf, description_of_lacks hlacks]
    · intro hlater
      rw [line_faultReport, hfirst.find?_eq hlacks, lacks_iff.1 hlater]
      rfl
    · intro before digits after hplace
      have hfound : find? later = some (digits, after) := findFrom?_eq_some_iff.2 ⟨before, hplace⟩
      rw [line_faultReport, hfirst.find?_eq hlacks, hfound, Option.bind_some]
      refine ⟨?_, ?_⟩
      · rintro n rfl
        rw [Text.readWord?_digits, Option.getD_some]
      · intro hnone
        rw [Text.readWord?_eq_none hnone, Option.getD_none]

/-- A message that imitates places on both sides of its own, and a message whose place stands in its traceback. -/
theorem faultReport_places_imitated :
    (let r := faultReport "runtime error"
        (String.ofList ("xjst:5: (jst:".toList ++ (written (Numeral.ofNat 12 (by decide)).digits
          ++ ' ' :: "user jst:7: says".toList) ++ '\n' :: "\tjst:9: in main".toList));
      r.line = 11 ∧ r.column = 0 ∧ r.description = "user jst:7: says")
    ∧ (faultReport "runtime error" (String.ofList ("xjst:5:".toList ++ '\n' :: "\tjst:9: main".toList))).line = 8 := by
  constructor
  · exact (faultReport_places "runtime error").1 "xjst:5: (jst:".toList "user jst:7: says".toList
      "\tjst:9: in main".toList (Numeral.ofNat 12 (by decide)) (lacks_iff.2 (by decide))
      (by rintro c ⟨⟩; decide) (by decide) (by decide) (by rintro c ⟨⟩; decide) (by rintro c ⟨⟩; decide)
  · have hplace : ∃ before, First false "\tjst:9: main".toList before ['9'] " main".toList :=
      findFrom?_eq_some_iff.1 (by decide)
    obtain ⟨before, hplace⟩ := hplace
    have hreport := (faultReport_places "runtime error").2 _ _ "\tjst:9: main".toList
      (.fed (by decide) (by decide)) (lacks_iff.2 (by decide : find? "xjst:5:".toList = none))
    exact (hreport.2.2.2 before ['9'] _ hplace).1 (Numeral.ofNat 9 (by decide)) (by decide)

end ScriptHost.TableScript
