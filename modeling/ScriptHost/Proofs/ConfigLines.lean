import ScriptHost.Proofs.Layering

/-!
# Each line of a configuration file counts for itself

A file is read line by line, with a record of what is set, a list of errors and a number that are handed on.  Whether
a line is bad, and what it sets, depends on nothing of this: a file that continues another one sets what it sets, a
bad line is reported and does nothing else, and so a file is as good as the same file without its bad lines.

* `Text.linesOf_line`, `Text.linesOf_last` — the lines of a text, one at a time.
* `Config.fault?` — what is wrong with a line.
* `Config.readLines_errors`, `Config.readLines_fst` — the errors of lines, and what lines set.
* `Config.read_eq` — a file may be cut at its line feeds.
* `Config.read_append`, `Config.read_blankOut` — files in a row, and a file without its bad lines.
* `Config.read_line_by_line` — **files in a row, and files without their bad lines**.
-/

namespace ScriptHost

/-! ## Lines of a text -/

namespace Text

theorem splitLine_eq {line : List Char} (h : '\n' ∉ line) (rest : List Char) :
    splitLine (line ++ '\n' :: rest) = (line, some rest) := by
  induction line with
  | nil => rfl
  | cons c cs ih =>
    simp only [List.mem_cons, not_or] at h
    have hc : c ≠ '\n' := Ne.symm h.1
    have hstep : splitLine (c :: (cs ++ '\n' :: rest)) = (c :: (splitLine (cs ++ '\n' :: rest)).1,
        (splitLine (cs ++ '\n' :: rest)).2) := by
      simp [splitLine]
    rw [List.cons_append, hstep, ih h.2]

theorem splitLine_eq_none {line : List Char} (h : '\n' ∉ line) : splitLine line = (line, none) := by
  induction line with
  | nil => rfl
  | cons c cs ih =>
    simp only [List.mem_cons, not_or] at h
    have hc : c ≠ '\n' := Ne.symm h.1
    have hstep : splitLine (c :: cs) = (c :: (splitLine cs).1, (splitLine cs).2) := by
      simp [splitLine]
    rw [hstep, ih h.2]

theorem linesOf_line {line : List Char} (h : '\n' ∉ line) (rest : List Char) :
    linesOf (line ++ '\n' :: rest) = dropReturn line :: linesOf rest := by
  rw [linesOf]
  split
  · next hsplit => simp [splitLine_eq h] at hsplit
  · next hsplit =>
    rw [splitLine_eq h] at hsplit
    cases hsplit
    rfl

theorem linesOf_last {line : List Char} (h : '\n' ∉ line) : linesOf line = if line.isEmpty then [] else [line] := by
  rw [linesOf]
  split
  · next hsplit =>
    rw [splitLine_eq_none h] at hsplit
    cases hsplit
    rfl
  · next hsplit => simp [splitLine_eq_none h] at hsplit

/-- Text without the white space at either end. -/
def trimmed (cs : List Char) : List Char := ((cs.dropWhile isBlank).reverse.dropWhile isBlank).reverse

theorem trim_ofList (cs : List Char) : trim (String.ofList cs) = String.ofList (trimmed cs) := by
  simp [trim, trimEnd, trimStart, trimmed]

theorem trimmed_of_blank {cs : List Char} (h : ∀ c ∈ cs, isBlank c) : trimmed cs = [] := by
  have hstart : cs.dropWhile isBlank = [] := List.dropWhile_eq_nil_iff.2 h
  simp [trimmed, hstart]

theorem trimmed_concat_blank (cs : List Char) {c : Char} (h : isBlank c) : trimmed (cs ++ [c]) = trimmed cs := by
  unfold trimmed
  rw [List.dropWhile_append]
  split
  · next hempty =>
    rw [List.isEmpty_iff.1 hempty]
    simp [h]
  · simp [h]

/-- A carriage return at the end of a line does not matter if the line is trimmed. -/
theorem trimmed_dropReturn (line : List Char) : trimmed (dropReturn line) = trimmed line := by
  unfold dropReturn
  split
  · next rest hreverse =>
    have hline : line = rest.reverse ++ ['\r'] := by
      rw [← List.reverse_reverse line, hreverse, List.reverse_cons]
    rw [hline, trimmed_concat_blank _ (by decide)]
  · rfl

end Text

/-! ## Errors of lines -/

namespace Config

/-- What is wrong, if anything is. -/
def errorOf? : Except String Config → Option String
  | .ok _ => none
  | .error message => some message

/-- What is wrong with a line. -/
def fault? (raw : String) : Option String := errorOf? (readLine {} raw)

/-- What is wrong with a line does not depend on what is set. -/
theorem errorOf?_readLine (c : Config) (raw : String) : errorOf? (readLine c raw) = fault? raw := by
  unfold fault? readLine
  cases hline : (Text.trim raw).toList with
  | nil => simp [hline, errorOf?]
  | cons first rest =>
    simp only [hline]
    by_cases hcomment : first = ';' ∨ first = '#'
    · simp [hcomment, errorOf?]
    · rw [if_neg hcomment, if_neg hcomment]
      cases splitAssignment (first :: rest) with
      | none => simp [errorOf?]
      | some assignment =>
        obtain ⟨name, value⟩ := assignment
        cases hvalue : unquote (Text.trim (String.ofList value)) with
        | error message => simp [hvalue, errorOf?, bind, Except.bind]
        | ok value =>
          obtain ⟨hname, hset⟩ | ⟨key, c', hname, hset, -⟩ := set?_cases c (Text.trim (String.ofList name)) value
          · obtain ⟨-, hset'⟩ | ⟨key, c', hname', -, -⟩ := set?_cases {} (Text.trim (String.ofList name)) value
            · simp [hvalue, hset, hset', errorOf?, bind, Except.bind]
            · cases hname.symm.trans hname'
          · obtain ⟨hname', -⟩ | ⟨key, c', -, hset', -⟩ := set?_cases {} (Text.trim (String.ofList name)) value
            · cases hname.symm.trans hname'
            · simp [hvalue, hset, hset', errorOf?, bind, Except.bind]

theorem readLine_congr {raw raw' : String} (h : Text.trim raw = Text.trim raw') (c : Config) :
    readLine c raw = readLine c raw' := by
  unfold readLine
  rw [h]

theorem readLine_of_blank {cs : List Char} (h : ∀ c ∈ cs, Text.isBlank c) (c : Config) :
    readLine c (String.ofList cs) = .ok c := by
  have hline : (Text.trim (String.ofList cs)).toList = [] := by
    simp [Text.trim_ofList, Text.trimmed_of_blank h]
  unfold readLine
  simp only [hline]

/-- The errors of lines, the first of which has the given number. -/
def errorsFrom (n : Nat) : List String → List ConfigError
  | [] => []
  | raw :: rest => ((fault? raw).map fun message => ⟨n, message⟩).toList ++ errorsFrom (n + 1) rest

/-- Lines are bad or not, whatever the others are. -/
theorem readLines_errors (c : Config) (n : Nat) (lines : List String) : (readLines c n lines).2 = errorsFrom n lines := by
  induction lines generalizing c n with
  | nil => rfl
  | cons raw rest ih =>
    rw [errorsFrom, ← errorOf?_readLine c raw, readLines]
    cases readLine c raw with
    | ok c' => simp [errorOf?, ih]
    | error message => simp [errorOf?, ih]

theorem errorsFrom_append (n : Nat) (xs ys : List String) :
    errorsFrom n (xs ++ ys) = errorsFrom n xs ++ errorsFrom (n + xs.length) ys := by
  induction xs generalizing n with
  | nil => simp [errorsFrom]
  | cons raw rest ih =>
    have hlength : n + 1 + rest.length = n + (raw :: rest).length := by
      simp
      omega
    rw [List.cons_append, errorsFrom, errorsFrom, ih, hlength, List.append_assoc]

/-- An error of a line further down. -/
def raise (m : Nat) (e : ConfigError) : ConfigError := { e with line := e.line + m }

theorem errorsFrom_add (n m : Nat) (lines : List String) : errorsFrom (n + m) lines = (errorsFrom n lines).map (raise m) := by
  induction lines generalizing n with
  | nil => rfl
  | cons raw rest ih =>
    have hnext : n + m + 1 = n + 1 + m := by omega
    rw [errorsFrom, errorsFrom, hnext, ih, List.map_append]
    cases fault? raw <;> rfl

/-- The numbers of errors are those of lines. -/
theorem line_of_mem_errorsFrom {n : Nat} {lines : List String} {e : ConfigError} (h : e ∈ errorsFrom n lines) :
    n ≤ e.line ∧ e.line < n + lines.length := by
  induction lines generalizing n with
  | nil => cases h
  | cons raw rest ih =>
    rw [errorsFrom, List.mem_append] at h
    cases h with
    | inl hfirst =>
      cases hfault : fault? raw with
      | none =>
        rw [hfault] at hfirst
        cases hfirst
      | some message =>
        rw [hfault] at hfirst
        obtain rfl := List.mem_singleton.1 hfirst
        simp
    | inr hrest =>
      have hbounds := ih hrest
      simp only [List.length_cons]
      omega

theorem increasing_errorsFrom (n : Nat) (lines : List String) : (errorsFrom n lines).Pairwise fun e e' => e.line < e'.line := by
  induction lines generalizing n with
  | nil => exact .nil
  | cons raw rest ih =>
    rw [errorsFrom, List.pairwise_append]
    refine ⟨?_, ih (n + 1), ?_⟩
    · cases fault? raw with
      | none => exact .nil
      | some message => exact List.pairwise_singleton ..
    · intro e he e' he'
      cases hfault : fault? raw with
      | none =>
        rw [hfault] at he
        cases he
      | some message =>
        rw [hfault] at he
        obtain rfl := List.mem_singleton.1 he
        exact (line_of_mem_errorsFrom he').1

/-! ## Line ends -/

/-- Lines that are read alike, and are followed by lines that are read alike. -/
theorem readLines_cons_congr {raw raw' : String} {rest rest' : List String} (hline : ∀ c, readLine c raw = readLine c raw')
    (hrest : ∀ c n, readLines c n rest = readLines c n rest') (c : Config) (n : Nat) :
    readLines c n (raw :: rest) = readLines c n (raw' :: rest') := by
  rw [readLines, readLines, hline]
  simp only [hrest]

/-- A file may be cut at its line feeds: neither a carriage return before one of them, nor what is behind the last one
if that is empty, changes anything. -/
theorem readLines_linesOf {parts : List (List Char)} (hne : parts ≠ []) (h : ∀ part ∈ parts, '\n' ∉ part) (c : Config)
    (n : Nat) : readLines c n ((Text.linesOf (['\n'].intercalate parts)).map String.ofList)
      = readLines c n (parts.map String.ofList) := by
  induction parts generalizing c n with
  | nil => exact absurd rfl hne
  | cons part rest ih =>
    obtain ⟨hpart, hrest⟩ := List.forall_mem_cons.1 h
    cases rest with
    | nil =>
      have hlast : ['\n'].intercalate [part] = part := by simp
      rw [hlast, Text.linesOf_last hpart]
      split
      · next hempty =>
        have hblank : readLine c (String.ofList part) = .ok c := by
          rw [List.isEmpty_iff.1 hempty]
          exact readLine_of_blank (List.forall_mem_nil _) c
        simp [readLines, hblank]
      · rfl
    | cons next rest =>
      rw [List.intercalate_cons_cons, List.append_assoc, List.singleton_append, Text.linesOf_line hpart]
      apply readLines_cons_congr
      · intro c
        apply readLine_congr
        rw [Text.trim_ofList, Text.trim_ofList, Text.trimmed_dropReturn]
      · exact ih (List.cons_ne_nil _ _) hrest

theorem notMem_of_mem_splitOn {cs part : List Char} (h : part ∈ cs.splitOn '\n') : '\n' ∉ part := by
  induction cs generalizing part with
  | nil =>
    rw [List.splitOn_nil, List.mem_singleton] at h
    simp [h]
  | cons c cs ih =>
    rw [List.splitOn_cons_eq_if_modifyHead] at h
    cases hsplit : cs.splitOn '\n' with
    | nil => exact absurd hsplit (List.splitOn_ne_nil _ _)
    | cons first rest =>
      rw [hsplit] at h ih
      by_cases hc : c = '\n'
      · rw [if_pos (by simpa using hc), List.mem_cons] at h
        cases h with
        | inl hempty => simp [hempty]
        | inr hmem => exact ih hmem
      · rw [if_neg (by simpa using hc), List.modifyHead_cons, List.mem_cons] at h
        cases h with
        | inl hfirst =>
          have hnone := ih (List.mem_cons_self (l := rest))
          simp [hfirst, hnone, Ne.symm hc]
        | inr hmem => exact ih (List.mem_cons_of_mem _ hmem)

theorem length_splitOn (cs : List Char) : (cs.splitOn '\n').length = cs.count '\n' + 1 := by
  induction cs with
  | nil => rfl
  | cons c cs ih =>
    rw [List.splitOn_cons_eq_if_modifyHead]
    by_cases hc : c = '\n'
    · simp [hc, ih]
    · simp [hc, ih]

/-- The parts of a text between its line feeds. -/
def parts (text : String) : List (List Char) := text.toList.splitOn '\n'

theorem read_eq (text : String) : read text = readLines {} 1 ((parts text).map String.ofList) := by
  have hparts : ['\n'].intercalate (parts text) = text.toList := List.intercalate_splitOn '\n'
  rw [read, Text.lines, ← hparts]
  exact readLines_linesOf (List.splitOn_ne_nil _ _) (fun _ => notMem_of_mem_splitOn) {} 1

/-! ## Files in a row -/

/-- What is set after a line. -/
def after (c : Config) (raw : String) : Config := (readLine c raw).toOption.getD c

theorem readLines_fst (c : Config) (n : Nat) (lines : List String) : (readLines c n lines).1 = lines.foldl after c := by
  induction lines generalizing c n with
  | nil => rfl
  | cons raw rest ih =>
    rw [List.foldl_cons, readLines, after]
    cases readLine c raw with
    | ok c' => exact ih c' (n + 1)
    | error message => exact ih c (n + 1)

theorem fault?_eq_none_of_blank {cs : List Char} (h : ∀ c ∈ cs, Text.isBlank c) : fault? (String.ofList cs) = none := by
  rw [fault?, readLine_of_blank h, errorOf?]

theorem after_of_blank {cs : List Char} (h : ∀ c ∈ cs, Text.isBlank c) (c : Config) : after c (String.ofList cs) = c := by
  rw [after, readLine_of_blank h]
  rfl

/-- Lines that have a line feed each may be read without what is behind the last of them. -/
theorem read_of_lines {text : String} {lines : List (List Char)} (h : parts text = lines ++ [[]]) :
    read text = readLines {} 1 (lines.map String.ofList) := by
  have hblank : ∀ c ∈ ([] : List Char), Text.isBlank c := List.forall_mem_nil _
  rw [read_eq, h, List.map_append]
  apply Prod.ext
  · simp [readLines_fst, after_of_blank hblank]
  · simp [readLines_errors, errorsFrom_append, errorsFrom, fault?_eq_none_of_blank hblank]

/-- A file that follows another one sets what it sets, and leaves the rest; its errors follow those of the other. -/
theorem read_append {a : String} (h : a = "" ∨ a.toList.getLast? = some '\n') (b : String) :
    (∀ key, (read (a ++ b)).1.get key = ((read b).1.get key).or ((read a).1.get key))
      ∧ (read (a ++ b)).2 = (read a).2 ++ (read b).2.map (raise (a.toList.count '\n')) := by
  obtain ⟨lines, ha, hab, hcount⟩ : ∃ lines : List (List Char), parts a = lines ++ [[]] ∧ parts (a ++ b) = lines ++ parts b
      ∧ a.toList.count '\n' = lines.length := by
    cases h with
    | inl hempty =>
      subst hempty
      exact ⟨[], rfl, by simp, rfl⟩
    | inr hlast =>
      obtain ⟨before, hbefore⟩ := List.getLast?_eq_some_iff.1 hlast
      refine ⟨before.splitOn '\n', ?_, ?_, ?_⟩
      · rw [parts, hbefore, List.splitOn_append_cons_self]
        rfl
      · rw [parts, String.toList_append, hbefore, List.append_assoc]
        exact List.splitOn_append_cons_self ..
      · rw [hbefore, length_splitOn, List.count_append]
        rfl
  have hjoined : read (a ++ b) = readLines {} 1 (lines.map String.ofList ++ (parts b).map String.ofList) := by
    rw [read_eq, hab, List.map_append]
  rw [hjoined, read_of_lines ha, read_eq b]
  constructor
  · intro key
    have hempty : ({} : Config).get key = none := by cases key <;> rfl
    rw [readLines_fst, List.foldl_append, ← readLines_fst _ 1, ← readLines_fst _ 1, get_readLines, get_readLines _ _ ((parts b).map _),
      hempty, Option.or_none]
  · rw [readLines_errors, readLines_errors, readLines_errors, errorsFrom_append, errorsFrom_add, List.length_map, hcount]

/-! ## Files without their bad lines -/

/-- The text with blank lines in place of those with certain numbers, which count from 1. -/
def blankOut (blank : List Char) (numbers : List Nat) (text : String) : String :=
  String.ofList (['\n'].intercalate ((parts text).mapIdx fun i line => if i + 1 ∈ numbers then blank else line))

theorem mem_errorsFrom_iff (n i : Nat) (lines : List String) :
    i + n ∈ (errorsFrom n lines).map (·.line) ↔ ∃ raw, lines[i]? = some raw ∧ fault? raw ≠ none := by
  induction lines generalizing n i with
  | nil => simp [errorsFrom]
  | cons raw rest ih =>
    have hfirst (m : Nat) : m ∈ (((fault? raw).map fun message => (⟨n, message⟩ : ConfigError)).toList).map (·.line)
        ↔ m = n ∧ fault? raw ≠ none := by
      cases fault? raw <;> simp
    rw [errorsFrom, List.map_append, List.mem_append, hfirst]
    cases i with
    | zero =>
      have hlater : n ∉ (errorsFrom (n + 1) rest).map (·.line) := by
        intro hmem
        obtain ⟨e, he, hline⟩ := List.mem_map.1 hmem
        have := (line_of_mem_errorsFrom he).1
        omega
      simp [hlater]
    | succ i =>
      have hnext : i + 1 + n = i + (n + 1) := by omega
      have hne : i + (n + 1) ≠ n := by omega
      rw [hnext, ih]
      simp [hne]

/-- A good line in place of another: the same one, or for a bad line one that changes nothing. -/
inductive Mends (raw : String) : String → Prop where
  | same (hgood : fault? raw = none) : Mends raw raw
  | blank {raw' : String} (hbad : fault? raw ≠ none) (hgood : fault? raw' = none) (hkeeps : ∀ c, after c raw' = c) :
    Mends raw raw'

theorem Mends.fault?_eq_none {raw raw' : String} (h : Mends raw raw') : fault? raw' = none := by
  cases h with
  | same hgood => exact hgood
  | blank _ hgood _ => exact hgood

theorem after_of_fault {raw : String} (h : fault? raw ≠ none) (c : Config) : after c raw = c := by
  rw [← errorOf?_readLine c raw] at h
  unfold after
  cases hread : readLine c raw with
  | ok c' =>
    rw [hread] at h
    exact absurd rfl h
  | error message => rfl

theorem Mends.after_eq {raw raw' : String} (h : Mends raw raw') (c : Config) : after c raw' = after c raw := by
  cases h with
  | same _ => rfl
  | blank hbad _ hkeeps => rw [hkeeps, after_of_fault hbad]

/-- Lines of which the bad ones are replaced say the same, and have no error. -/
theorem readLines_of_mends {lines lines' : List String} (h : List.Forall₂ Mends lines lines') (c : Config) (n : Nat) :
    readLines c n lines' = ((readLines c n lines).1, []) := by
  apply Prod.ext
  · rw [readLines_fst, readLines_fst]
    induction h generalizing c with
    | nil => rfl
    | cons hline _ ih => rw [List.foldl_cons, List.foldl_cons, hline.after_eq, ih]
  · rw [readLines_errors]
    induction h generalizing n with
    | nil => rfl
    | cons hline _ ih =>
      rw [errorsFrom, hline.fault?_eq_none, ih]
      rfl

/-- A file says the same without its bad lines, and then has no error. -/
theorem read_blankOut {blank : List Char} (h : ∀ c ∈ blank, Text.isBlank c ∧ c ≠ '\n') (text : String) :
    read (blankOut blank ((read text).2.map (·.line)) text) = ((read text).1, []) := by
  have hnumber (i : Nat) : i + 1 ∈ (read text).2.map (·.line)
      ↔ ∃ raw, ((parts text).map String.ofList)[i]? = some raw ∧ fault? raw ≠ none := by
    rw [read_eq, readLines_errors]
    exact mem_errorsFrom_iff 1 i _
  generalize (read text).2.map (·.line) = numbers at hnumber ⊢
  have hblank : ∀ c ∈ blank, Text.isBlank c := fun c hc => (h c hc).1
  have hparts : parts (blankOut blank numbers text)
      = (parts text).mapIdx fun i line => if i + 1 ∈ numbers then blank else line := by
    unfold parts blankOut
    rw [String.toList_ofList]
    apply List.splitOn_intercalate
    · intro part hpart
      obtain ⟨i, hi, rfl⟩ := List.mem_mapIdx.1 hpart
      split
      · intro hnewline
        exact (h _ hnewline).2 rfl
      · exact notMem_of_mem_splitOn (List.getElem_mem hi)
    · intro hnil
      exact List.splitOn_ne_nil '\n' text.toList (List.mapIdx_eq_nil_iff.1 hnil)
  rw [read_eq, hparts, read_eq text]
  apply readLines_of_mends
  rw [List.forall₂_iff_get]
  refine ⟨by simp, ?_⟩
  intro i hi hi'
  have hlt : i < (parts text).length := by simpa using hi
  have hbad : i + 1 ∈ numbers ↔ fault? (String.ofList (parts text)[i]) ≠ none := by simp [hnumber, hlt]
  simp only [List.get_eq_getElem, List.getElem_map, List.getElem_mapIdx]
  by_cases hfault : fault? (String.ofList (parts text)[i]) = none
  · have hkept : i + 1 ∉ numbers := fun hmem => hbad.1 hmem hfault
    rw [if_neg hkept]
    exact .same hfault
  · rw [if_pos (hbad.2 hfault)]
    exact .blank hfault (fault?_eq_none_of_blank hblank) (after_of_blank hblank)

/-! ## Line by line -/

/-- A file that follows another one sets what it sets, and leaves the rest; its errors follow those of the other, as
many lines further down as the other has line feeds.  The errors of a file are in the order of their lines, which are
lines of the file; and with blank lines in place of these, the file sets the same and has no error. -/
theorem read_line_by_line : (∀ a b : String, a = "" ∨ a.toList.getLast? = some '\n' →
      (∀ key, (read (a ++ b)).1.get key = ((read b).1.get key).or ((read a).1.get key))
        ∧ (read (a ++ b)).2 = (read a).2 ++ (read b).2.map (raise (a.toList.count '\n')))
    ∧ ∀ text, ((read text).2.map (·.line)).Pairwise (· < ·)
      ∧ (∀ e ∈ (read text).2, 1 ≤ e.line ∧ e.line ≤ (Text.lines text).length)
      ∧ ∀ blank : List Char, (∀ c ∈ blank, Text.isBlank c ∧ c ≠ '\n') →
        read (blankOut blank ((read text).2.map (·.line)) text) = ((read text).1, []) := by
  refine ⟨fun a b h => read_append h b, fun text => ⟨?_, ?_, fun blank h => read_blankOut h text⟩⟩
  · rw [List.pairwise_map, read, readLines_errors]
    exact increasing_errorsFrom 1 _
  · intro e he
    rw [read, readLines_errors] at he
    have hbounds := line_of_mem_errorsFrom he
    omega

/-- Two files in a row, of which both have a bad line and set the same key, and the second one without its bad lines. -/
theorem read_line_by_line_twice : "output=a\r\n?\n".toList.getLast? = some '\n'
    ∧ (read ("output=a\r\n?\n" ++ "x\nOutput = b")).1.get .output = some "b"
    ∧ (read ("output=a\r\n?\n" ++ "x\nOutput = b")).2.map (·.line) = [2, 3]
    ∧ (∀ c ∈ [' '], Text.isBlank c ∧ c ≠ '\n')
    ∧ read (blankOut [' '] ((read "x\nOutput = b").2.map (·.line)) "x\nOutput = b") = ({ output := some "b" }, []) := by
  have hlast : "output=a\r\n?\n".toList.getLast? = some '\n' := by decide
  have hblank : ∀ c ∈ [' '], Text.isBlank c ∧ c ≠ '\n' := by
    intro c hc
    obtain rfl := List.mem_singleton.1 hc
    decide
  have hcount : "output=a\r\n?\n".toList.count '\n' = 2 := by decide +kernel
  have hfirst : read "output=a\r\n?\n" = ({ output := some "a" }, [⟨2, "expected `key = value`, got `?`"⟩]) := by
    decide +kernel
  have hsecond : read "x\nOutput = b" = ({ output := some "b" }, [⟨1, "expected `key = value`, got `x`"⟩]) := by
    decide +kernel
  obtain ⟨happend, hsingle⟩ := read_line_by_line
  obtain ⟨hget, herrors⟩ := happend "output=a\r\n?\n" "x\nOutput = b" (.inr hlast)
  obtain ⟨-, -, hmended⟩ := hsingle "x\nOutput = b"
  refine ⟨hlast, ?_, ?_, hblank, ?_⟩
  · rw [hget, hsecond]
    rfl
  · rw [herrors, hfirst, hsecond, hcount]
    rfl
  · rw [hmended [' '] hblank, hsecond]

end Config

end ScriptHost
