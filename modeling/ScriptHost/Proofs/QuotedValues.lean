import ScriptHost.Proofs.ConfigLines

/-!
# Values between double quotes

A value between double quotes can be any text without a line feed.  In front of a quote or a backslash stands a
backslash, which does not belong to the text; before any other character a backslash is one.  What follows the closing
quote has to be blank.

* `Config.Quoted` — what may stand between the quotes, and the text that it stands for.
* `Config.exists_closes` — there is a closing quote, or there is none.
* `Config.readLine_lineOf` — a line that is written with an escaped value sets that value.
* `Config.quoted_values` — **what is read from quotes, and every configuration can be written**.
-/

namespace ScriptHost

/-! ## White space around a text -/

namespace Text

theorem trimmed_cons_blank {c : Char} (h : isBlank c) (cs : List Char) : trimmed (c :: cs) = trimmed cs := by
  unfold trimmed
  rw [List.dropWhile_cons_of_pos h]

theorem trimmed_eq_self {first last : Char} {cs : List Char} (hhead : cs.head? = some first) (hfirst : ¬ isBlank first)
    (hend : cs.getLast? = some last) (hlast : ¬ isBlank last) : trimmed cs = cs := by
  obtain ⟨rest, rfl⟩ := List.head?_eq_some_iff.1 hhead
  unfold trimmed
  rw [List.dropWhile_cons_of_neg hfirst]
  obtain ⟨before, hbefore⟩ := List.getLast?_eq_some_iff.1 hend
  rw [hbefore, List.reverse_append, List.reverse_singleton, List.singleton_append, List.dropWhile_cons_of_neg hlast]
  simp

/-- Neither upper nor lower case of a letter is white space. -/
theorem not_isBlank_of_letter {c : Char} (h : 65 ≤ c.toNat) (h' : c.toNat ≤ 122) : isBlank c = false := by
  simp only [isBlank, Bool.or_eq_false_iff, Bool.and_eq_false_iff, decide_eq_false_iff_not, beq_eq_false_iff_ne]
  omega

theorem isBlank_toLower (c : Char) : isBlank c.toLower = isBlank c := by
  by_cases hupper : c.val ≥ 'A'.val ∧ c.val ≤ 'Z'.val
  · have hlow : 65 ≤ c.toNat := hupper.1
    have hhigh : c.toNat ≤ 90 := hupper.2
    have hlower : c.toLower.toNat = c.toNat + 32 := by
      have hval : c.val.toNat ≤ 90 := hhigh
      unfold Char.toLower
      rw [dif_pos hupper]
      simp only [Char.toNat, UInt32.toNat_add]
      simp
      omega
    rw [not_isBlank_of_letter hlow (by omega), not_isBlank_of_letter (by omega) (by omega)]
  · unfold Char.toLower
    rw [dif_neg hupper]

end Text

namespace Config

/-! ## What stands between quotes -/

/-- A text that may stand between quotes, and the text that it stands for. -/
inductive Quoted : List Char → List Char → Prop where
  | nil : Quoted [] []
  | plain {c : Char} {body value : List Char} (hquote : c ≠ '"') (hbackslash : c ≠ '\\') (hrest : Quoted body value) :
    Quoted (c :: body) (c :: value)
  | escaped {c : Char} {body value : List Char} (hc : c = '"' ∨ c = '\\') (hrest : Quoted body value) :
    Quoted ('\\' :: c :: body) (c :: value)
  | kept {c : Char} {body value : List Char} (hc : ¬ (c = '"' ∨ c = '\\')) (hrest : Quoted body value) :
    Quoted ('\\' :: c :: body) ('\\' :: c :: value)

/-- A text up to the closing quote, what it stands for, and what follows. -/
def Closes (rest body value after : List Char) : Prop := rest = body ++ '"' :: after ∧ Quoted body value

theorem unquoteTail_of_closes {rest body value after : List Char} (h : Closes rest body value after) :
    unquoteTail rest = if after.all Text.isBlank then .ok value else .error .trailingText := by
  obtain ⟨rfl, hbody⟩ := h
  induction hbody with
  | nil => simp [unquoteTail]
  | plain hquote hbackslash _ ih =>
    rw [List.cons_append, unquoteTail.eq_5 _ _ hbackslash hquote, ih]
    split <;> rfl
  | escaped hc _ ih =>
    rw [List.cons_append, List.cons_append, unquoteTail, if_pos hc, ih]
    split <;> rfl
  | kept hc _ ih =>
    rw [List.cons_append, List.cons_append, unquoteTail, if_neg hc, ih]
    split <;> rfl

/-- There is a closing quote, or else the quote is unterminated. -/
theorem exists_closes (rest : List Char) :
    (∃ body value after, Closes rest body value after) ∨ unquoteTail rest = .error .unterminated := by
  fun_induction unquoteTail rest with
  | case1 => exact .inr rfl
  | case2 => exact .inr rfl
  | case3 c rest hc ih =>
    cases ih with
    | inl hcloses =>
      obtain ⟨body, value, after, rfl, hbody⟩ := hcloses
      exact .inl ⟨_, _, after, rfl, .escaped hc hbody⟩
    | inr hopen => exact .inr (by rw [hopen]; rfl)
  | case4 c rest hc ih =>
    cases ih with
    | inl hcloses =>
      obtain ⟨body, value, after, rfl, hbody⟩ := hcloses
      exact .inl ⟨_, _, after, rfl, .kept hc hbody⟩
    | inr hopen => exact .inr (by rw [hopen]; rfl)
  | case5 rest _ => exact .inl ⟨[], [], rest, rfl, .nil⟩
  | case6 rest _ => exact .inl ⟨[], [], rest, rfl, .nil⟩
  | case7 c rest hbackslash hquote ih =>
    cases ih with
    | inl hcloses =>
      obtain ⟨body, value, after, rfl, hbody⟩ := hcloses
      exact .inl ⟨_, _, after, rfl, .plain hquote hbackslash hbody⟩
    | inr hopen => exact .inr (by rw [hopen]; rfl)

theorem unquote_of_closes {s : String} {rest body value after : List Char} (hs : s.toList = '"' :: rest)
    (h : Closes rest body value after) :
    unquote s = if after.all Text.isBlank then .ok (String.ofList value)
      else .error ("trailing text after quoted value `" ++ s ++ "`") := by
  simp only [unquote, hs, unquoteTail_of_closes h]
  by_cases hblank : after.all Text.isBlank
  · simp only [if_pos hblank]
  · simp only [if_neg hblank]

theorem unquote_of_unterminated {s : String} {rest : List Char} (hs : s.toList = '"' :: rest)
    (h : unquoteTail rest = .error .unterminated) : unquote s = .error ("unterminated quote in `" ++ s ++ "`") := by
  simp only [unquote, hs, h]

/-- The two messages about quotes differ. -/
theorem trailing_ne_unterminated (s : String) :
    "trailing text after quoted value `" ++ s ++ "`" ≠ "unterminated quote in `" ++ s ++ "`" := by
  intro h
  have hchars := congrArg (fun t : String => t.toList.head?) h
  simp at hchars

theorem unquote_eq_ok_iff {s : String} {rest : List Char} (hs : s.toList = '"' :: rest) (value : String) :
    unquote s = .ok value ↔ ∃ body after, Closes rest body value.toList after ∧ ∀ c ∈ after, Text.isBlank c := by
  constructor
  · intro hok
    obtain ⟨body, read, after, hcloses⟩ | hopen := exists_closes rest
    · rw [unquote_of_closes hs hcloses] at hok
      split at hok
      · next hblank =>
        cases hok
        refine ⟨body, after, ?_, List.all_eq_true.1 hblank⟩
        rw [String.toList_ofList]
        exact hcloses
      · cases hok
    · rw [unquote_of_unterminated hs hopen] at hok
      cases hok
  · rintro ⟨body, after, hcloses, hblank⟩
    rw [unquote_of_closes hs hcloses, if_pos (List.all_eq_true.2 hblank), String.ofList_toList]

theorem unquote_unterminated_iff {s : String} {rest : List Char} (hs : s.toList = '"' :: rest) :
    unquote s = .error ("unterminated quote in `" ++ s ++ "`") ↔ ¬ ∃ body value after, Closes rest body value after := by
  constructor
  · rintro herror ⟨body, value, after, hcloses⟩
    rw [unquote_of_closes hs hcloses] at herror
    split at herror
    · cases herror
    · exact trailing_ne_unterminated s (Except.error.inj herror)
  · intro hopen
    exact unquote_of_unterminated hs ((exists_closes rest).resolve_left hopen)

theorem unquote_trailing_iff {s : String} {rest : List Char} (hs : s.toList = '"' :: rest) :
    unquote s = .error ("trailing text after quoted value `" ++ s ++ "`") ↔
      ∃ body value after, Closes rest body value after ∧ ¬ ∀ c ∈ after, Text.isBlank c := by
  constructor
  · intro herror
    obtain ⟨body, value, after, hcloses⟩ | hopen := exists_closes rest
    · refine ⟨body, value, after, hcloses, ?_⟩
      intro hblank
      rw [unquote_of_closes hs hcloses, if_pos (List.all_eq_true.2 hblank)] at herror
      cases herror
    · rw [unquote_of_unterminated hs hopen] at herror
      exact absurd (Except.error.inj herror).symm (trailing_ne_unterminated s)
  · rintro ⟨body, value, after, hcloses, hnot⟩
    have hall : ¬ after.all Text.isBlank := fun hall => hnot (List.all_eq_true.1 hall)
    rw [unquote_of_closes hs hcloses, if_neg hall]

/-! ## Lines with a quoted value -/

/-- A text with a backslash before each quote and each backslash. -/
def escape (value : List Char) : List Char := value.flatMap fun c => if c = '"' ∨ c = '\\' then ['\\', c] else [c]

theorem quoted_escape (value : List Char) : Quoted (escape value) value := by
  induction value with
  | nil => exact .nil
  | cons c value ih =>
    unfold escape
    rw [List.flatMap_cons]
    by_cases hc : c = '"' ∨ c = '\\'
    · rw [if_pos hc]
      exact .escaped hc ih
    · rw [if_neg hc]
      rw [not_or] at hc
      exact .plain hc.1 hc.2 ih

theorem newline_notMem_escape {value : List Char} (h : '\n' ∉ value) : '\n' ∉ escape value := by
  unfold escape
  rw [List.mem_flatMap]
  rintro ⟨c, hc, hnewline⟩
  have hne : '\n' ≠ c := by
    rintro rfl
    exact h hc
  split at hnewline
  · simp [hne] at hnewline
  · simp [hne] at hnewline

/-- A value between quotes. -/
def quote (value : String) : List Char := '"' :: (escape value.toList ++ ['"'])

theorem unquote_quote (value : String) : unquote (String.ofList (quote value)) = .ok value := by
  have hs : (String.ofList (quote value)).toList = '"' :: (escape value.toList ++ ['"']) := String.toList_ofList
  rw [unquote_eq_ok_iff hs]
  exact ⟨escape value.toList, [], ⟨rfl, quoted_escape _⟩, List.forall_mem_nil _⟩

/-- A line that sets a value between quotes. -/
def lineOf (name value : String) : List Char := name.toList ++ ' ' :: '=' :: ' ' :: quote value

/-- A key in whatever case. -/
def Spells (name : String) (key : Key) : Prop := name.map Char.toLower = key.text

theorem ofName?_of_spells {name : String} {key : Key} (h : Spells name key) : Key.ofName? name = some key := by
  unfold Key.ofName?
  rw [h]
  cases key <;> decide

/-- The characters of keys are none that mean anything else. -/
theorem letters_text (key : Key) : ∀ c ∈ key.text.toList, ¬ Text.isBlank c ∧ c ∉ ['=', ';', '#', '\n'] := by
  cases key <;> simp [Key.text, Text.isBlank]

theorem letters_of_spells {name : String} {key : Key} (h : Spells name key) :
    ∀ c ∈ name.toList, ¬ Text.isBlank c ∧ c ∉ ['=', ';', '#', '\n'] := by
  intro c hc
  have hlower : c.toLower ∈ key.text.toList := by
    rw [← h, String.toList_map]
    exact List.mem_map_of_mem hc
  obtain ⟨hblank, hmarks⟩ := letters_text key _ hlower
  rw [Text.isBlank_toLower] at hblank
  refine ⟨hblank, ?_⟩
  intro hmark
  have hsame : c.toLower = c := by
    simp at hmark
    rcases hmark with rfl | rfl | rfl | rfl <;> rfl
  rw [hsame] at hmarks
  exact hmarks hmark

theorem trimmed_name {name : String} {key : Key} (h : Spells name key) : Text.trimmed name.toList = name.toList := by
  have hletters := letters_of_spells h
  cases hname : name.toList with
  | nil => rfl
  | cons first rest =>
    rw [hname] at hletters
    have hlast : (first :: rest).getLast? = some ((first :: rest).getLast (List.cons_ne_nil _ _)) :=
      List.getLast?_eq_some_getLast _
    exact Text.trimmed_eq_self rfl (hletters _ (List.mem_cons_self ..)).1 hlast
      (hletters _ (List.getLast_mem (List.cons_ne_nil _ _))).1

theorem trimmed_quote (value : String) : Text.trimmed (quote value) = quote value := by
  have hlast : (quote value).getLast? = some '"' := by
    unfold quote
    rw [← List.cons_append, List.getLast?_concat]
  exact Text.trimmed_eq_self rfl (by decide) hlast (by decide)

theorem splitAssignment_eq {key : List Char} (h : '=' ∉ key) (value : List Char) :
    splitAssignment (key ++ '=' :: value) = some (key, value) := by
  have hkey : ∀ c ∈ key, decide (c ≠ '=') = true := by
    intro c hc
    rw [decide_eq_true_iff]
    rintro rfl
    exact h hc
  have hstop : decide ('=' ≠ '=') = false := rfl
  unfold splitAssignment
  rw [List.span_eq_takeWhile_dropWhile, List.takeWhile_append_of_pos hkey, List.dropWhile_append_of_pos hkey]
  simp

theorem Spells.ne_nil {name : String} {key : Key} (h : Spells name key) : name.toList ≠ [] := by
  intro hnil
  have htext : key.text.toList = [] := by rw [← h, String.toList_map, hnil, List.map_nil]
  cases key <;> simp [Key.text] at htext

theorem trimmed_lineOf {name : String} {key : Key} (h : Spells name key) (value : String) :
    Text.trimmed (lineOf name value) = lineOf name value := by
  obtain ⟨first, rest, hname⟩ := List.exists_cons_of_ne_nil h.ne_nil
  have hfirst : first ∈ name.toList := by simp [hname]
  have hhead : (lineOf name value).head? = some first := by simp [lineOf, hname]
  have hlast : (lineOf name value).getLast? = some '"' := by
    have hsplit : lineOf name value = (name.toList ++ " = \"".toList ++ escape value.toList) ++ ['"'] := by
      simp [lineOf, quote]
    rw [hsplit, List.getLast?_concat]
  exact Text.trimmed_eq_self hhead (letters_of_spells h first hfirst).1 hlast (by decide)

theorem readLine_lineOf (c : Config) {name : String} {key : Key} (h : Spells name key) (value : String) :
    ∃ c', readLine c (String.ofList (lineOf name value)) = .ok c'
      ∧ ∀ k, c'.get k = if key = k then some value else c.get k := by
  have hletters := letters_of_spells h
  obtain ⟨first, rest, hname⟩ := List.exists_cons_of_ne_nil h.ne_nil
  have hcomment : ¬ (first = ';' ∨ first = '#') := by
    have hmarks := (hletters first (by simp [hname])).2
    simp at hmarks
    simp [hmarks]
  have hequals : '=' ∉ name.toList ++ [' '] := by
    intro hmem
    have hname : '=' ∈ name.toList := by simpa using hmem
    have hmarks := (hletters _ hname).2
    simp at hmarks
  have hline : (Text.trim (String.ofList (lineOf name value))).toList
      = first :: (rest ++ ' ' :: '=' :: ' ' :: quote value) := by
    rw [Text.trim_ofList, trimmed_lineOf h, String.toList_ofList, lineOf, hname, List.cons_append]
  have hsplit : splitAssignment (first :: (rest ++ ' ' :: '=' :: ' ' :: quote value))
      = some (name.toList ++ [' '], ' ' :: quote value) := by
    rw [← splitAssignment_eq hequals, hname]
    simp
  have hkey : Text.trim (String.ofList (name.toList ++ [' '])) = name := by
    rw [Text.trim_ofList, Text.trimmed_concat_blank _ (by decide), trimmed_name h, String.ofList_toList]
  have hvalue : unquote (Text.trim (String.ofList (' ' :: quote value))) = .ok value := by
    rw [Text.trim_ofList, Text.trimmed_cons_blank (by decide), trimmed_quote, unquote_quote]
  obtain ⟨hnone, -⟩ | ⟨key', c', hsome, hset, hget⟩ := set?_cases c name value
  · rw [ofName?_of_spells h] at hnone
    cases hnone
  · rw [ofName?_of_spells h] at hsome
    cases hsome
    refine ⟨c', ?_, hget⟩
    unfold readLine
    simp only [hline, hsplit, if_neg hcomment, hkey, hvalue, hset, bind, Except.bind]


/-! ## A configuration, written -/

/-- Lines for the keys of a configuration, in some order and some spelling. -/
def writtenLines (c : Config) (name : Key → String) (order : List Key) : List (List Char) :=
  order.map fun key => lineOf (name key) ((c.get key).getD "")

/-- The text of a configuration, with a line feed between the lines. -/
def written (c : Config) (name : Key → String) (order : List Key) : String :=
  String.ofList (['\n'].intercalate (writtenLines c name order))

theorem eq_of_get {c c' : Config} (h : ∀ key, c.get key = c'.get key) : c = c' := by
  obtain ⟨ns, output, interpolate, evaluate, escape⟩ := c
  obtain ⟨ns', output', interpolate', evaluate', escape'⟩ := c'
  have hns : ns = ns' := h .ns
  have houtput : output = output' := h .output
  have hinterpolate : interpolate = interpolate' := h .interpolate
  have hevaluate : evaluate = evaluate' := h .evaluate
  have hescape : escape = escape' := h .escape
  rw [hns, houtput, hinterpolate, hevaluate, hescape]

/-- Every written line sets its key, and none is bad. -/
theorem readLines_written (c : Config) {name : Key → String} (hname : ∀ key, Spells (name key) key) (c₀ : Config) (n : Nat)
    (order : List Key) : (readLines c₀ n ((writtenLines c name order).map String.ofList)).2 = []
      ∧ ∀ key, (readLines c₀ n ((writtenLines c name order).map String.ofList)).1.get key
        = if key ∈ order then some ((c.get key).getD "") else c₀.get key := by
  induction order generalizing c₀ n with
  | nil => exact ⟨rfl, fun key => rfl⟩
  | cons first order ih =>
    obtain ⟨c', hline, hget⟩ := readLine_lineOf c₀ (hname first) ((c.get first).getD "")
    obtain ⟨herrors, hrest⟩ := ih c' (n + 1)
    have hstep : readLines c₀ n ((writtenLines c name (first :: order)).map String.ofList)
        = readLines c' (n + 1) ((writtenLines c name order).map String.ofList) := by
      rw [writtenLines, List.map_cons, List.map_cons, readLines, hline]
      rfl
    rw [hstep]
    refine ⟨herrors, ?_⟩
    intro key
    rw [hrest, hget]
    by_cases hfirst : first = key
    · subst hfirst
      simp
    · simp [hfirst, Ne.symm hfirst]

theorem parts_newline (text : String) : parts (text ++ "\n") = parts text ++ [[]] := by
  have hend : "\n".toList = ['\n'] := rfl
  rw [parts, parts, String.toList_append, hend, List.splitOn_append_cons_self, List.splitOn_nil]

/-- Lines with a line feed between them, and perhaps another one at the end. -/
theorem read_intercalate {lines : List (List Char)} (h : ∀ line ∈ lines, '\n' ∉ line) {ending : String}
    (hending : ending = "" ∨ ending = "\n") : read (String.ofList (['\n'].intercalate lines) ++ ending)
      = readLines {} 1 (lines.map String.ofList) := by
  cases lines with
  | nil =>
    cases hending with
    | inl hnone => subst hnone; decide +kernel
    | inr hone => subst hone; decide +kernel
  | cons line rest =>
    have hparts : parts (String.ofList (['\n'].intercalate (line :: rest))) = line :: rest := by
      rw [parts, String.toList_ofList]
      exact List.splitOn_intercalate _ h (List.cons_ne_nil _ _)
    cases hending with
    | inl hnone => rw [hnone, String.append_empty, read_eq, hparts]
    | inr hone =>
      have hended : parts (String.ofList (['\n'].intercalate (line :: rest)) ++ ending) = (line :: rest) ++ [[]] := by
        rw [hone, parts_newline, hparts]
      rw [read_of_lines hended]

theorem newline_notMem_lineOf {name value : String} {key : Key} (hname : Spells name key) (hvalue : '\n' ∉ value.toList) :
    '\n' ∉ lineOf name value := by
  have hletters : '\n' ∉ name.toList := by
    intro hmem
    have hmarks := (letters_of_spells hname _ hmem).2
    simp at hmarks
  simp [lineOf, quote, hletters, newline_notMem_escape hvalue]

/-- A configuration is read back from its text. -/
theorem read_written {c : Config} (hvalues : ∀ key value, c.get key = some value → '\n' ∉ value.toList)
    {name : Key → String} (hname : ∀ key, Spells (name key) key) {order : List Key}
    (horder : ∀ key, key ∈ order ↔ (c.get key).isSome) {ending : String} (hending : ending = "" ∨ ending = "\n") :
    read (written c name order ++ ending) = (c, []) := by
  have hlines : ∀ line ∈ writtenLines c name order, '\n' ∉ line := by
    intro line hline
    obtain ⟨key, hkey, rfl⟩ := List.mem_map.1 hline
    obtain ⟨value, hvalue⟩ := Option.isSome_iff_exists.1 ((horder key).1 hkey)
    rw [hvalue]
    exact newline_notMem_lineOf (hname key) (hvalues key value hvalue)
  obtain ⟨herrors, hget⟩ := readLines_written c hname {} 1 order
  rw [written, read_intercalate hlines hending]
  refine Prod.ext (eq_of_get ?_) herrors
  intro key
  rw [hget]
  cases hvalue : c.get key with
  | none =>
    have hmissing : key ∉ order := by simp [horder, hvalue]
    rw [if_neg hmissing]
    cases key <;> rfl
  | some value =>
    have hpresent : key ∈ order := by simp [horder, hvalue]
    rw [if_pos hpresent]
    rfl

/-! ## Quotes, read and written -/

/-- A value that starts with a quote is read if it is closed, and only white space follows: it is what stands between
the quotes, with a backslash taken away where it is in front of a quote or a backslash.  If there is no closing quote,
or if something else follows it, the error says so.  And a configuration, of whatever values without line feeds, is read
back from lines with its values between quotes, one for each of its keys, in any order and spelling of the keys. -/
theorem quoted_values : (∀ (s : String) (rest : List Char), s.toList = '"' :: rest →
      (∀ value, unquote s = .ok value ↔
        ∃ body after, Closes rest body value.toList after ∧ ∀ c ∈ after, Text.isBlank c)
      ∧ (unquote s = .error ("unterminated quote in `" ++ s ++ "`") ↔ ¬ ∃ body value after, Closes rest body value after)
      ∧ (unquote s = .error ("trailing text after quoted value `" ++ s ++ "`") ↔
        ∃ body value after, Closes rest body value after ∧ ¬ ∀ c ∈ after, Text.isBlank c))
    ∧ ∀ c : Config, (∀ key value, c.get key = some value → '\n' ∉ value.toList) →
      ∀ name : Key → String, (∀ key, Spells (name key) key) →
      ∀ order : List Key, (∀ key, key ∈ order ↔ (c.get key).isSome) →
      ∀ ending : String, ending = "" ∨ ending = "\n" → read (written c name order ++ ending) = (c, []) := by
  constructor
  · intro s rest hs
    exact ⟨unquote_eq_ok_iff hs, unquote_unterminated_iff hs, unquote_trailing_iff hs⟩
  · intro c hvalues name hname order horder ending hending
    exact read_written hvalues hname horder hending

/-- Quotes that are closed, left open and followed by something, and the text of a configuration whose values have
quotes, backslashes and blanks at either end. -/
theorem quoted_values_awkward : unquote "\"a\\\\\\\"\\n\" \t" = .ok "a\\\"\\n"
    ∧ (¬ ∃ body value after, Closes ['a', '\\', '"'] body value after)
    ∧ (∃ body value after, Closes ['a', '"', ' ', 'b'] body value after ∧ ¬ ∀ c ∈ after, Text.isBlank c)
    ∧ written { ns := some " \"=\\;\r", output := some "" } (fun key => key.text.map Char.toUpper) [.output, .ns]
      = "OUTPUT = \"\"\nNAMESPACE = \" \\\"=\\\\;\r\""
    ∧ read (written { ns := some " \"=\\;\r", output := some "" } (fun key => key.text.map Char.toUpper) [.output, .ns] ++ "\n")
      = ({ ns := some " \"=\\;\r", output := some "" }, []) := by
  obtain ⟨hunquote, hread⟩ := quoted_values
  refine ⟨?_, ?_, ?_, by decide +kernel, ?_⟩
  · obtain ⟨hok, -, -⟩ := hunquote "\"a\\\\\\\"\\n\" \t" ['a', '\\', '\\', '\\', '"', '\\', 'n', '"', ' ', '\t'] rfl
    rw [hok]
    refine ⟨['a', '\\', '\\', '\\', '"', '\\', 'n'], [' ', '\t'], ⟨rfl, ?_⟩, ?_⟩
    · exact .plain (by decide) (by decide) (.escaped (by decide) (.escaped (by decide) (.kept (by decide) .nil)))
    · simp [Text.isBlank]
  · obtain ⟨-, hopen, -⟩ := hunquote "\"a\\\"" ['a', '\\', '"'] rfl
    rw [← hopen]
    rfl
  · obtain ⟨-, -, htrailing⟩ := hunquote "\"a\" b" ['a', '"', ' ', 'b'] rfl
    rw [← htrailing]
    rfl
  · apply hread
    · intro key value hvalue
      cases key with
      | ns =>
        cases hvalue
        simp
      | output =>
        cases hvalue
        simp
      | interpolate => cases hvalue
      | evaluate => cases hvalue
      | escape => cases hvalue
    · intro key
      unfold Spells
      cases key <;> decide +kernel
    · intro key
      cases key <;> decide
    · exact .inr rfl

end Config

end ScriptHost
