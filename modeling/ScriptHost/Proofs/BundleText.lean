import ScriptHost.Proofs.QuotedNames

/-!
# A bundle can be read back

The text of a bundle has an opening line, a guard line for each prefix of its namespace, an entry for each
template, and a closing line.  An entry begins with a line that no other line looks like, and goes on to the
next such line; a name cannot break its line, however it is written, and so the text tells the namespace and
all entries.

* `Bundle.new_eq_ok` — which namespaces are accepted.
* `LaidOut` — the format, in terms of what is read and not of what was written.
* `readBundle?` — the namespace and the entries of a text.
* `Bundle.reads_back` — **a bundle is laid out in the format, and reading it gives what was pushed**.
-/

namespace ScriptHost

open Text (Units)

/-! ## Namespaces -/

/-- The characters that match `[A-Za-z_$]`. -/
def IsNameStart (c : Char) : Prop := 'A' ≤ c ∧ c ≤ 'Z' ∨ 'a' ≤ c ∧ c ≤ 'z' ∨ c = '_' ∨ c = '$'

/-- The texts that match `[A-Za-z_$][A-Za-z0-9_$]*`. -/
def IsName (cs : List Char) : Prop :=
  ∃ c rest, cs = c :: rest ∧ IsNameStart c ∧ ∀ d ∈ rest, IsNameStart d ∨ '0' ≤ d ∧ d ≤ '9'

theorem isIdentifierStart_iff (c : Char) : isIdentifierStart c ↔ IsNameStart c := by
  simp only [isIdentifierStart, Char.isAlpha, Char.isUpper, Char.isLower, IsNameStart, Char.le_def,
    Bool.or_eq_true, Bool.and_eq_true, decide_eq_true_eq, beq_iff_eq, or_assoc, ge_iff_le]

theorem isIdentifierPart_iff (c : Char) : isIdentifierPart c ↔ IsNameStart c ∨ '0' ≤ c ∧ c ≤ '9' := by
  simp only [isIdentifierPart, Bool.or_eq_true, isIdentifierStart_iff, Char.isDigit, Char.le_def,
    Bool.and_eq_true, decide_eq_true_eq, ge_iff_le]

theorem isIdentifier_iff (cs : List Char) : isIdentifier cs ↔ IsName cs := by
  cases cs with
  | nil => simp [isIdentifier, IsName]
  | cons c rest => simp [isIdentifier, IsName, isIdentifierStart_iff, isIdentifierPart_iff]

theorem splitAll_eq (sep : Char) (cs : List Char) : splitAll sep cs = cs.splitOn sep := by
  induction cs with
  | nil => rfl
  | cons c cs ih =>
    rw [splitAll, ih, List.splitOn_cons_eq_if_modifyHead]
    by_cases h : c = sep
    · simp [h]
    · rw [if_neg h, if_neg (by simpa using h)]
      cases hsplit : cs.splitOn sep with
      | nil => exact absurd hsplit (List.splitOn_ne_nil sep cs)
      | cons part parts => rfl

/-- Segments with dots between them. -/
def dotted (segments : List (List Char)) : List Char := ['.'].intercalate segments

/-- The dotted prefixes of a namespace, the shortest first. -/
def prefixesOf (ns : List Char) : List (List Char) := (ns.splitOn '.').inits.tail.map dotted

theorem dotted_concat {segments : List (List Char)} (h : segments ≠ []) (segment : List Char) :
    dotted (segments ++ [segment]) = dotted segments ++ '.' :: segment := by
  induction segments with
  | nil => exact absurd rfl h
  | cons first segments ih =>
    cases segments with
    | nil => simp [dotted]
    | cons second segments =>
      have hrest := ih (List.cons_ne_nil _ _)
      simp only [dotted, List.cons_append, List.intercalate_cons_cons, List.append_assoc] at hrest ⊢
      rw [hrest]

theorem dotted_splitOn (ns : List Char) : dotted (ns.splitOn '.') = ns := List.intercalate_splitOn '.'

theorem mem_prefixesOf {ns path : List Char} (h : path ∈ prefixesOf ns) :
    ∃ segments, segments ≠ [] ∧ segments <+: ns.splitOn '.' ∧ path = dotted segments := by
  obtain ⟨segments, hsegments, rfl⟩ := List.mem_map.1 h
  refine ⟨segments, ?_, (List.mem_inits _ _).1 (List.mem_of_mem_tail hsegments), rfl⟩
  cases hsplit : ns.splitOn '.' with
  | nil => exact absurd hsplit (List.splitOn_ne_nil '.' ns)
  | cons first rest =>
    rw [hsplit, List.inits_cons, List.tail_cons] at hsegments
    obtain ⟨more, -, rfl⟩ := List.mem_map.1 hsegments
    exact List.cons_ne_nil _ _

/-- The last prefix is the namespace. -/
theorem getLast?_prefixesOf (ns : List Char) : (prefixesOf ns).getLast? = some ns := by
  have hinits (segments : List (List Char)) : segments.inits.getLast? = some segments := by
    induction segments with
    | nil => rfl
    | cons first rest ih => simp [List.getLast?_cons, ih]
  have hlast : (ns.splitOn '.').inits.tail.getLast? = some (ns.splitOn '.') := by
    cases hsplit : ns.splitOn '.' with
    | nil => exact absurd hsplit (List.splitOn_ne_nil '.' ns)
    | cons first rest => simp [hinits]
  rw [prefixesOf, List.getLast?_map, hlast, Option.map_some, dotted_splitOn]

/-- An identifier is not empty and has no dot. -/
theorem dot_notMem {segment : List Char} (h : isIdentifier segment) : segment ≠ [] ∧ '.' ∉ segment := by
  cases segment with
  | nil => cases h
  | cons c rest =>
    simp only [isIdentifier, Bool.and_eq_true, List.all_eq_true] at h
    refine ⟨List.cons_ne_nil _ _, ?_⟩
    intro hmem
    cases List.mem_cons.1 hmem with
    | inl hfirst => exact absurd (hfirst ▸ h.1) (by decide)
    | inr hrest => exact absurd (h.2 '.' hrest) (by decide)

theorem splitOn_dotted {segments : List (List Char)} (h : ∀ s ∈ segments, isIdentifier s)
    (hne : segments ≠ []) : (dotted segments).splitOn '.' = segments :=
  List.splitOn_intercalate '.' (fun s hs => (dot_notMem (h s hs)).2) hne

theorem dotted_isEmpty {segments : List (List Char)} (h : ∀ s ∈ segments, isIdentifier s) :
    (dotted segments).isEmpty = segments.isEmpty := by
  cases segments with
  | nil => rfl
  | cons first rest =>
    have hfirst := (dot_notMem (h first List.mem_cons_self)).1
    cases rest with
    | nil => simpa [dotted] using hfirst
    | cons second rest => simp [dotted, hfirst]

namespace Bundle

/-- The prefixes of a list with one more element before it. -/
theorem inits_tail_cons {α β : Type} (f : List α → β) (a : α) (as : List α) :
    (a :: as).inits.tail.map f = f [a] :: as.inits.tail.map fun p => f (a :: p) := by
  cases as <;> simp

/-- The guards of segments, behind segments that have been guarded. -/
theorem toOption_guards {done segments : List (List Char)} (hdone : ∀ s ∈ done, isIdentifier s) :
    (guards (dotted done) segments).toOption = if ∀ s ∈ segments, isIdentifier s
      then some (String.join (segments.inits.tail.map fun p => guardLine (String.ofList (dotted (done ++ p)))))
      else none := by
  induction segments generalizing done with
  | nil => rfl
  | cons segment rest ih =>
    rw [guards]
    by_cases hsegment : isIdentifier segment
    · have hpath : (if (dotted done).isEmpty then segment else dotted done ++ '.' :: segment)
          = dotted (done ++ [segment]) := by
        rw [dotted_isEmpty hdone]
        cases done with
        | nil => simp [dotted]
        | cons first done =>
          rw [dotted_concat (List.cons_ne_nil _ _)]
          rfl
      have hdone' : ∀ s ∈ done ++ [segment], isIdentifier s := by
        intro s hs
        cases List.mem_append.1 hs with
        | inl hs => exact hdone s hs
        | inr hs => rwa [List.mem_singleton.1 hs]
      have hmap (f : String → String) (x : Except String String) : (f <$> x).toOption = x.toOption.map f := by
        cases x <;> rfl
      rw [if_pos hsegment]
      simp only [hpath, hmap, ih hdone', inits_tail_cons, List.forall_mem_cons, hsegment, true_and,
        String.join_cons, List.append_assoc, List.singleton_append]
      by_cases hrest : ∀ s ∈ rest, isIdentifier s
      · simp only [if_pos hrest, Option.map_some]
      · simp only [if_neg hrest, Option.map_none]
    · simp [hsegment, Except.toOption]

/-- The namespace that a text stands for. -/
def namespaceOf (text : String) : String := if text = "" then "JST" else text

/-- A namespace is accepted if its segments are identifiers, and guarded at every prefix. -/
theorem new_eq_ok {text : String} {b : Bundle} : new text = .ok b ↔
    (∀ s ∈ (namespaceOf text).toList.splitOn '.', isIdentifier s)
      ∧ b = ⟨namespaceOf text, String.join ((prefixesOf (namespaceOf text).toList).map
          fun p => guardLine (String.ofList p)), 0⟩ := by
  have hns : (if text.isEmpty then defaultNamespace else text) = namespaceOf text := by
    simp [namespaceOf, defaultNamespace]
  have hguards := @toOption_guards [] ((namespaceOf text).toList.splitOn '.') (by simp)
  have hnil : dotted [] = [] := rfl
  rw [hnil] at hguards
  simp only [new, hns, splitAll_eq, prefixesOf, List.map_map]
  cases h : guards [] ((namespaceOf text).toList.splitOn '.') with
  | error segment =>
    rw [h] at hguards
    have hnot : ¬∀ s ∈ (namespaceOf text).toList.splitOn '.', isIdentifier s := by
      intro hall
      rw [if_pos hall] at hguards
      cases hguards
    simp [hnot]
  | ok body =>
    rw [h] at hguards
    by_cases hall : ∀ s ∈ (namespaceOf text).toList.splitOn '.', isIdentifier s
    · rw [if_pos hall] at hguards
      cases hguards
      constructor
      · intro h
        cases h
        exact ⟨hall, rfl⟩
      · intro h
        rw [h.2]
        rfl
    · rw [if_neg hall] at hguards
      cases hguards

/-! ## Texts of bundles -/

/-- A bundle with more templates, each a name and its compiled text. -/
def pushAll (b : Bundle) (entries : List (String × String)) : Bundle :=
  entries.foldl (fun b e => b.push e.1 e.2) b

theorem pushAll_eq (b : Bundle) (entries : List (String × String)) : b.pushAll entries
    = ⟨b.ns, b.body ++ String.join (entries.map fun e => entry b.ns e.1 e.2), b.count + entries.length⟩ := by
  induction entries generalizing b with
  | nil => simp [pushAll]
  | cons e rest ih =>
    have hstep : b.pushAll (e :: rest) = (b.push e.1 e.2).pushAll rest := rfl
    rw [hstep, ih, push]
    simp [String.append_assoc, Nat.add_assoc, Nat.add_comm 1]

end Bundle

/-! ## The format -/

/-- The line of a guard. -/
def guardText (path : List Char) : List Char :=
  "global.".toList ++ path ++ " = global.".toList ++ path ++ " || \x7b\x7d;".toList

/-- What the first line of an entry begins with. -/
def entryStart (ns : List Char) : List Char := "global.".toList ++ ns ++ "[\"".toList

/-- The format of bundles: the names are known by what they are read as. -/
def LaidOut (ns : String) (entries : List (String × String)) (text : String) : Prop :=
  ∃ names : List String, names.map quotedValue? = entries.map (fun e => some (Units.ofChars e.1.toList))
    ∧ text = "(function(global) \x7b\n"
      ++ String.join ((prefixesOf ns.toList).map fun p =>
        "global." ++ String.ofList p ++ " = global." ++ String.ofList p ++ " || \x7b\x7d;\n")
      ++ String.join (List.zipWith (fun name e => "global." ++ ns ++ "[\"" ++ name ++ "\"] = " ++ e.2 ++ ";\n")
        names entries)
      ++ "\n\x7d)(this);"

/-- A bundle is laid out in the format. -/
theorem laidOut_finish {text : String} {b : Bundle} (h : Bundle.new text = .ok b) (entries : List (String × String)) :
    LaidOut b.ns entries (b.pushAll entries).finish := by
  obtain ⟨-, rfl⟩ := Bundle.new_eq_ok.1 h
  unfold LaidOut
  refine ⟨entries.map fun e => quote e.1, ?_, ?_⟩
  · simp [List.map_map, Function.comp_def, quotedValue?_quote]
  · have hzip (f : String → String × String → String) : List.zipWith f (entries.map fun e => quote e.1) entries
        = entries.map fun e => f (quote e.1) e := by
      rw [List.zipWith_map_left, List.zipWith_self]
    rw [hzip fun name e => "global." ++ Bundle.namespaceOf text ++ "[\"" ++ name ++ "\"] = " ++ e.2 ++ ";\n"]
    simp only [Bundle.pushAll_eq]
    unfold Bundle.finish Bundle.guardLine Bundle.entry
    simp only [String.append_assoc]

/-! ## Lines -/

/-- The first line of a bundle. -/
def openingLine : List Char := "(function(global) \x7b".toList

/-- The last line of a bundle. -/
def closingLine : List Char := "\x7d)(this);".toList

/-- An entry, without the end of its last line. -/
def entryText (ns : List Char) (e : String × String) : List Char :=
  entryStart ns ++ (quote e.1).toList ++ "\"] = ".toList ++ e.2.toList ++ ";".toList

theorem toList_guardLine (path : List Char) :
    (Bundle.guardLine (String.ofList path)).toList = guardText path ++ ['\n'] := by
  have hend : " || \x7b\x7d;\n".toList = " || \x7b\x7d;".toList ++ ['\n'] := rfl
  unfold Bundle.guardLine guardText
  simp only [String.toList_append, String.toList_ofList, hend, List.append_assoc]

theorem toList_entry (ns name compiled : String) :
    (Bundle.entry ns name compiled).toList = entryText ns.toList (name, compiled) ++ ['\n'] := by
  have hend : ";\n".toList = ";".toList ++ ['\n'] := rfl
  unfold Bundle.entry entryText entryStart
  simp only [String.toList_append, hend, List.append_assoc]

/-- The lines of texts that each end a line, and of what is behind them. -/
theorem splitOn_joined (texts : List (List Char)) (rest : List Char) :
    (texts.flatMap (· ++ ['\n']) ++ rest).splitOn '\n' = texts.flatMap (·.splitOn '\n') ++ rest.splitOn '\n' := by
  induction texts with
  | nil => rfl
  | cons text texts ih =>
    simp only [List.flatMap_cons, List.append_assoc, List.cons_append, List.nil_append]
    rw [List.splitOn_append_cons_self, ih]

/-- Characters of a dotted path. -/
theorem mem_dotted {segments : List (List Char)} (h : ∀ s ∈ segments, isIdentifier s) :
    ∀ c ∈ dotted segments, c = '.' ∨ isIdentifierPart c := by
  intro c hc
  induction segments with
  | nil => cases hc
  | cons first rest ih =>
    obtain ⟨hfirst, hrest⟩ := List.forall_mem_cons.1 h
    have hpart : c ∈ first → isIdentifierPart c := by
      intro hmem
      cases first with
      | nil => cases hmem
      | cons d ds =>
        simp only [isIdentifier, Bool.and_eq_true, List.all_eq_true] at hfirst
        cases List.mem_cons.1 hmem with
        | inl hd => simp [hd, isIdentifierPart, hfirst.1]
        | inr hds => exact hfirst.2 c hds
    cases rest with
    | nil => exact .inr (hpart (by simpa [dotted] using hc))
    | cons second rest =>
      simp only [dotted, List.intercalate_cons_cons, List.append_assoc, List.mem_append,
        List.mem_singleton] at hc
      obtain hc | rfl | hc := hc
      · exact .inr (hpart hc)
      · exact .inl rfl
      · exact ih hrest hc

/-- A dotted path has no blank, no bracket and no line end. -/
theorem notMem_dotted {segments : List (List Char)} (h : ∀ s ∈ segments, isIdentifier s) {c : Char}
    (hc : c ≠ '.' ∧ isIdentifierPart c = false) : c ∉ dotted segments := by
  intro hmem
  cases mem_dotted h c hmem with
  | inl hdot => exact hc.1 hdot
  | inr hpart => simp [hc.2] at hpart

theorem newline_notMem_guardText {segments : List (List Char)} (h : ∀ s ∈ segments, isIdentifier s) :
    '\n' ∉ guardText (dotted segments) := by
  have hpath : '\n' ∉ dotted segments := notMem_dotted h (by decide)
  unfold guardText
  simp [hpath]

/-- The guards of a namespace are lines of their own. -/
theorem flatMap_guardText {ns : List Char} (h : ∀ s ∈ ns.splitOn '.', isIdentifier s) :
    ((prefixesOf ns).map guardText).flatMap (·.splitOn '\n') = (prefixesOf ns).map guardText := by
  have hline : ∀ line ∈ (prefixesOf ns).map guardText, line.splitOn '\n' = [line] := by
    intro line hline
    obtain ⟨path, hpath, rfl⟩ := List.mem_map.1 hline
    obtain ⟨segments, -, hstarts, rfl⟩ := mem_prefixesOf hpath
    have hnone := newline_notMem_guardText fun s hs => h s (hstarts.subset hs)
    exact List.splitOn_eq_singleton hnone
  rw [List.flatMap_congr hline]
  simp

/-- The lines of a bundle. -/
theorem splitOn_finish {text : String} {b : Bundle} (h : Bundle.new text = .ok b) (entries : List (String × String)) :
    (b.pushAll entries).finish.toList.splitOn '\n' = openingLine :: ((prefixesOf b.ns.toList).map guardText
      ++ entries.flatMap (fun e => (entryText b.ns.toList e).splitOn '\n') ++ [[], closingLine]) := by
  obtain ⟨hsegments, rfl⟩ := Bundle.new_eq_ok.1 h
  simp only at hsegments ⊢
  generalize Bundle.namespaceOf text = ns at hsegments ⊢
  have hguards : (String.join ((prefixesOf ns.toList).map fun p => Bundle.guardLine (String.ofList p))).toList
      = ((prefixesOf ns.toList).map guardText).flatMap (· ++ ['\n']) := by
    simp only [String.toList_join, List.flatMap_map, toList_guardLine]
  have hentries : (String.join (entries.map fun e => Bundle.entry ns e.1 e.2)).toList
      = (entries.map fun e => entryText ns.toList e).flatMap (· ++ ['\n']) := by
    simp only [String.toList_join, List.flatMap_map, toList_entry]
  have hopening : "(function(global) \x7b\n".toList = openingLine ++ ['\n'] := rfl
  have hclosing : "\n\x7d)(this);".toList = '\n' :: closingLine := rfl
  have hfirst : '\n' ∉ openingLine := by decide +kernel
  have hlast : '\n' ∉ closingLine := by decide +kernel
  simp only [Bundle.pushAll_eq]
  unfold Bundle.finish
  simp only [String.toList_append, hguards, hentries, hopening, hclosing,
    List.append_assoc, List.cons_append, List.nil_append]
  have hempty : ('\n' :: closingLine).splitOn '\n' = [[], closingLine] := by
    rw [← List.nil_append ('\n' :: closingLine), List.splitOn_append_cons_self, List.splitOn_eq_singleton hlast]
    rfl
  rw [List.splitOn_append_cons_self_of_not_mem hfirst, splitOn_joined, splitOn_joined, hempty,
    flatMap_guardText hsegments, List.flatMap_map]

/-! ## Reading -/

/-- The path of a guard. -/
def readGuard? (line : List Char) : Option (List Char) :=
  let path := (line.drop 7).takeWhile (· != ' ')
  if line = guardText path ∧ ∀ s ∈ path.splitOn '.', isIdentifier s then some path else none

/-- The name and the compiled text of an entry, given its lines. -/
def readTemplate? (ns : List Char) (lines : List (List Char)) : Option (String × String) := do
  let text ← (['\n'].intercalate lines).dropPrefix? (entryStart ns)
  let (name, rest) ← readQuoted? 0 (Units.ofChars text)
  let rest ← rest.dropPrefix? (Units.ofChars "] = ".toList)
  let compiled ← rest.dropSuffix? (Units.ofChars ";".toList)
  return (Units.toString name.toArray, Units.toString compiled.toArray)

/-- The namespace and the entries of a bundle.  The guards come first, and the last of them is that of the
namespace; an entry goes on as far as the line with which the next one begins. -/
def readBundle? (text : String) : Option (String × List (String × String)) :=
  match text.toList.splitOn '\n' with
  | [] => none
  | first :: rest => do
    let body ← if first = openingLine then rest.dropSuffix? [[], closingLine] else none
    let isGuard (line : List Char) : Bool := (readGuard? line).isSome
    let ns ← (body.takeWhile isGuard).getLast?.bind readGuard?
    let groups := (body.dropWhile isGuard).splitBy fun _ line => !(entryStart ns).isPrefixOf line
    let entries ← groups.mapM (readTemplate? ns)
    return (String.ofList ns, entries)

/-! ### Guards -/

theorem readGuard?_guardText {segments : List (List Char)} (h : ∀ s ∈ segments, isIdentifier s)
    (hne : segments ≠ []) : readGuard? (guardText (dotted segments)) = some (dotted segments) := by
  have hpath : ∀ c ∈ dotted segments, (c != ' ') = true := by
    intro c hc
    rw [bne_iff_ne]
    rintro rfl
    exact notMem_dotted h (by decide) hc
  have htake : ((guardText (dotted segments)).drop 7).takeWhile (· != ' ') = dotted segments := by
    have hdrop : (guardText (dotted segments)).drop 7
        = dotted segments ++ (' ' :: ("= global.".toList ++ dotted segments ++ " || \x7b\x7d;".toList)) := by
      unfold guardText
      simp
    rw [hdrop, List.takeWhile_append_of_pos hpath]
    simp
  have hall : ∀ s ∈ (dotted segments).splitOn '.', isIdentifier s := by rwa [splitOn_dotted h hne]
  unfold readGuard?
  rw [htake, if_pos ⟨rfl, hall⟩]

/-- The first line of an entry is no guard. -/
theorem readGuard?_entryStart {ns line : List Char} (hns : ∀ s ∈ ns.splitOn '.', isIdentifier s)
    (h : entryStart ns <+: line) : readGuard? line = none := by
  obtain ⟨rest, rfl⟩ := h
  have hpath : ∀ c ∈ ns, (c != ' ') = true := by
    intro c hc
    rw [bne_iff_ne]
    rintro rfl
    exact notMem_dotted hns (by decide) (dotted_splitOn ns ▸ hc)
  have hmem : '[' ∈ ((entryStart ns ++ rest).drop 7).takeWhile (· != ' ') := by
    have hdrop : (entryStart ns ++ rest).drop 7 = ns ++ ('[' :: '"' :: rest) := by
      unfold entryStart
      simp
    rw [hdrop, List.takeWhile_append_of_pos hpath]
    simp
  unfold readGuard?
  rw [if_neg]
  rintro ⟨-, hall⟩
  rw [← dotted_splitOn (List.takeWhile _ _)] at hmem
  exact notMem_dotted hall (by decide) hmem

/-! ### Entries -/

/-- Text before the first line end belongs to the first line. -/
theorem splitOn_append_of_notMem {before : List Char} (h : '\n' ∉ before) (text : List Char) :
    (before ++ text).splitOn '\n' = (text.splitOn '\n').modifyHead (before ++ ·) := by
  induction before with
  | nil => exact (congrFun List.modifyHead_id _).symm
  | cons c before ih =>
    obtain ⟨hc, hbefore⟩ := not_or.1 (mt List.mem_cons.2 h)
    have hne : ¬(c == '\n') = true := by simpa using Ne.symm hc
    rw [List.cons_append, List.splitOn_cons_eq_if_modifyHead, if_neg hne, ih hbefore, List.modifyHead_modifyHead]
    rfl

/-- Text behind the last line end belongs to the last line; all other lines are as they were. -/
theorem mem_splitOn_append {text behind line : List Char} (h : '\n' ∉ behind)
    (hline : line ∈ (text ++ behind).splitOn '\n') :
    ∃ l ∈ text.splitOn '\n', line = l ∨ line = l ++ behind := by
  induction hn : text.length using Nat.strong_induction_on generalizing text with
  | _ n ih =>
    by_cases hmem : '\n' ∈ text
    · obtain ⟨first, rest, rfl, hfirst⟩ := List.eq_append_cons_of_mem hmem
      rw [List.append_assoc, List.cons_append, List.splitOn_append_cons_self_of_not_mem hfirst,
        List.mem_cons] at hline
      rw [List.splitOn_append_cons_self_of_not_mem hfirst]
      cases hline with
      | inl hline => exact ⟨first, List.mem_cons_self, .inl hline⟩
      | inr hline =>
        have hlt : rest.length < n := by
          rw [← hn]
          simp
          omega
        obtain ⟨l, hl, hcases⟩ := ih _ hlt hline rfl
        exact ⟨l, List.mem_cons_of_mem _ hl, hcases⟩
    · have hnone : '\n' ∉ text ++ behind := by simp [hmem, h]
      rw [List.splitOn_eq_singleton hnone, List.mem_singleton] at hline
      exact ⟨text, by rw [List.splitOn_eq_singleton hmem]; exact List.mem_singleton_self _, .inr hline⟩

/-- The lines of an entry: with the first one entries begin, and with no other. -/
theorem splitOn_entryText {ns : List Char} (hns : ∀ s ∈ ns.splitOn '.', isIdentifier s) {e : String × String}
    (h : ∀ line ∈ e.2.toList.splitOn '\n', ¬entryStart ns <+: line) :
    ∃ line more, (entryText ns e).splitOn '\n' = line :: more ∧ entryStart ns <+: line
      ∧ ∀ l ∈ more, ¬entryStart ns <+: l := by
  have hstart : '\n' ∉ entryStart ns := by
    have hpath : '\n' ∉ ns := dotted_splitOn ns ▸ notMem_dotted hns (by decide)
    unfold entryStart
    simp [hpath]
  have hbefore : '\n' ∉ entryStart ns ++ (quote e.1).toList ++ "\"] = ".toList := by
    simp [hstart, newline_notMem_quote]
  have hsemicolon : '\n' ∉ ";".toList := by simp
  have htext : entryText ns e
      = (entryStart ns ++ (quote e.1).toList ++ "\"] = ".toList) ++ (e.2.toList ++ ";".toList) := by
    unfold entryText
    rw [List.append_assoc]
  rw [htext, splitOn_append_of_notMem hbefore]
  cases hlines : (e.2.toList ++ ";".toList).splitOn '\n' with
  | nil => exact absurd hlines (List.splitOn_ne_nil _ _)
  | cons first more =>
    refine ⟨_, more, rfl, ?_, ?_⟩
    · simp only [List.append_assoc]
      exact List.prefix_append _ _
    · intro l hl hstarts
      have hmem : l ∈ (e.2.toList ++ ";".toList).splitOn '\n' := by
        rw [hlines]
        exact List.mem_cons_of_mem _ hl
      obtain ⟨m, hm, rfl | rfl⟩ := mem_splitOn_append hsemicolon hmem
      · exact h _ hm hstarts
      · -- the quote at the end of the start is no semicolon
        have hsemi : ";".toList = [';'] := rfl
        rw [hsemi] at hstarts
        cases List.prefix_concat_iff.1 hstarts with
        | inl heq =>
          have hlast := congrArg List.reverse heq
          unfold entryStart at hlast
          simp at hlast
        | inr hshort => exact h _ hm hshort

theorem readTemplate?_splitOn (ns : List Char) (e : String × String) :
    readTemplate? ns ((entryText ns e).splitOn '\n') = some e := by
  have htext : (entryText ns e).dropPrefix? (entryStart ns)
      = some ((quote e.1).toList ++ ("\"] = ".toList ++ (e.2.toList ++ ";".toList))) := by
    unfold entryText
    simp only [List.append_assoc]
    exact List.dropPrefix?_append_of_beq _ (by simp)
  have hquote : Units.ofChars ("\"] = ".toList ++ (e.2.toList ++ ";".toList))
      = 0x22 :: (Units.ofChars "] = ".toList ++ (Units.ofChars e.2.toList ++ Units.ofChars ";".toList)) := by
    simp only [Units.ofChars_append]
    rfl
  have hdrop : (Units.ofChars "] = ".toList ++ (Units.ofChars e.2.toList ++ Units.ofChars ";".toList)).dropPrefix?
      (Units.ofChars "] = ".toList) = some (Units.ofChars e.2.toList ++ Units.ofChars ";".toList) :=
    List.dropPrefix?_append_of_beq _ (by simp)
  have hend : (Units.ofChars e.2.toList ++ Units.ofChars ";".toList).dropSuffix? (Units.ofChars ";".toList)
      = some (Units.ofChars e.2.toList) := List.dropSuffix?_eq_some_iff.2 ⟨_, rfl, by simp⟩
  unfold readTemplate?
  rw [List.intercalate_splitOn, htext, Option.bind_eq_bind, Option.bind_some, Units.ofChars_append, hquote,
    readQuoted?_quote]
  simp only [Option.bind_eq_bind, Option.bind_some, hdrop, hend, Units.toString_ofChars, String.ofList_toList]
  rfl

/-- The lines of entries, taken apart where entries begin. -/
theorem splitBy_entries {ns : List Char} (hns : ∀ s ∈ ns.splitOn '.', isIdentifier s) {entries : List (String × String)}
    (h : ∀ e ∈ entries, ∀ line ∈ e.2.toList.splitOn '\n', ¬entryStart ns <+: line) :
    (entries.flatMap fun e => (entryText ns e).splitOn '\n').splitBy
        (fun _ line => !(entryStart ns).isPrefixOf line)
      = entries.map fun e => (entryText ns e).splitOn '\n' := by
  have hlines : ∀ group ∈ entries.map fun e => (entryText ns e).splitOn '\n',
      ∃ line more, group = line :: more ∧ entryStart ns <+: line ∧ ∀ l ∈ more, ¬entryStart ns <+: l := by
    intro group hgroup
    obtain ⟨e, he, rfl⟩ := List.mem_map.1 hgroup
    exact splitOn_entryText hns (h e he)
  rw [List.flatMap_def]
  apply List.splitBy_flatten
  · intro hnil
    obtain ⟨line, more, hgroup, -⟩ := hlines [] hnil
    cases hgroup
  · intro group hgroup
    obtain ⟨line, more, rfl, -, hmore⟩ := hlines group hgroup
    have hrest : ∀ l ∈ more, (!(entryStart ns).isPrefixOf l) = true := by
      intro l hl
      rw [Bool.not_eq_true', ← Bool.not_eq_true, List.isPrefixOf_iff_prefix]
      exact hmore l hl
    exact (List.pairwise_cons.2 ⟨hrest, List.pairwise_of_forall_mem_list fun _ _ l hl => hrest l hl⟩).isChain
  · refine (List.pairwise_of_forall_mem_list ?_).isChain
    intro group hgroup next hnext
    obtain ⟨line, more, rfl, -⟩ := hlines group hgroup
    obtain ⟨line', more', rfl, hstart, -⟩ := hlines next hnext
    exact ⟨List.cons_ne_nil _ _, List.cons_ne_nil _ _, by simpa using hstart⟩

/-! ## A bundle can be read back -/

/-- The guards of a namespace are read as its prefixes, the last of them as the namespace. -/
theorem guards_readGuard? {ns : List Char} (hns : ∀ s ∈ ns.splitOn '.', isIdentifier s) :
    (∀ line ∈ (prefixesOf ns).map guardText, (readGuard? line).isSome)
      ∧ ((prefixesOf ns).map guardText).getLast?.bind readGuard? = some ns := by
  constructor
  · intro line hline
    obtain ⟨path, hpath, rfl⟩ := List.mem_map.1 hline
    obtain ⟨segments, hne, hstarts, rfl⟩ := mem_prefixesOf hpath
    rw [readGuard?_guardText (fun s hs => hns s (hstarts.subset hs)) hne]
    rfl
  · have hwhole := readGuard?_guardText hns (List.splitOn_ne_nil '.' ns)
    rw [dotted_splitOn] at hwhole
    rw [List.getLast?_map, getLast?_prefixesOf, Option.map_some, Option.bind_some, hwhole]

/-- Guards come before entries. -/
theorem takeWhile_entries {ns : List Char} (hns : ∀ s ∈ ns.splitOn '.', isIdentifier s)
    {entries : List (String × String)}
    (h : ∀ e ∈ entries, ∀ line ∈ e.2.toList.splitOn '\n', ¬entryStart ns <+: line) :
    (entries.flatMap fun e => (entryText ns e).splitOn '\n').takeWhile (fun line => (readGuard? line).isSome) = []
      ∧ (entries.flatMap fun e => (entryText ns e).splitOn '\n').dropWhile (fun line => (readGuard? line).isSome)
        = entries.flatMap fun e => (entryText ns e).splitOn '\n' := by
  cases entries with
  | nil => exact ⟨rfl, rfl⟩
  | cons e rest =>
    obtain ⟨line, more, hlines, hstart, -⟩ := splitOn_entryText hns (h e List.mem_cons_self)
    have hnone := readGuard?_entryStart hns hstart
    rw [List.flatMap_cons, hlines, List.cons_append]
    simp [hnone]

/-- What was pushed is read back. -/
theorem readBundle?_finish {text : String} {b : Bundle} (hnew : Bundle.new text = .ok b)
    {entries : List (String × String)}
    (h : ∀ e ∈ entries, ∀ line ∈ e.2.toList.splitOn '\n', ¬entryStart b.ns.toList <+: line) :
    readBundle? (b.pushAll entries).finish = some (b.ns, entries) := by
  have hns : ∀ s ∈ b.ns.toList.splitOn '.', isIdentifier s := by
    obtain ⟨hns, rfl⟩ := Bundle.new_eq_ok.1 hnew
    exact hns
  obtain ⟨hguards, hlast⟩ := guards_readGuard? hns
  obtain ⟨htake, hdrop⟩ := takeWhile_entries hns h
  have hbody (lines : List (List Char)) : (lines ++ [[], closingLine]).dropSuffix? [[], closingLine] = some lines :=
    List.dropSuffix?_eq_some_iff.2 ⟨_, rfl, by simp⟩
  have hentries : (entries.map fun e => (entryText b.ns.toList e).splitOn '\n').mapM (readTemplate? b.ns.toList)
      = some entries := by
    clear h htake hdrop
    induction entries with
    | nil => rfl
    | cons e rest ih => simp [readTemplate?_splitOn, ih]
  unfold readBundle?
  rw [splitOn_finish hnew entries]
  simp only [if_true, hbody, Option.bind_eq_bind, Option.bind_some, List.takeWhile_append_of_pos hguards, htake,
    List.append_nil, hlast, List.dropWhile_append_of_pos hguards, hdrop, splitBy_entries hns h, hentries,
    String.ofList_toList]
  rfl

/-- A namespace is accepted if it is empty, which stands for `JST`, or all of its segments are names.  A bundle is
laid out in the format, and its text tells the namespace and all that was pushed, unless a line of some compiled
text looks like the first line of an entry. -/
theorem Bundle.reads_back (text : String) :
    ((∃ b, Bundle.new text = .ok b) ↔ text = "" ∨ ∀ segment ∈ text.toList.splitOn '.', IsName segment)
    ∧ ∀ b, Bundle.new text = .ok b → b.ns = (if text = "" then "JST" else text)
      ∧ ∀ entries : List (String × String), LaidOut b.ns entries (b.pushAll entries).finish
        ∧ (b.pushAll entries).count = entries.length
        ∧ ((∀ e ∈ entries, ∀ line ∈ e.2.toList.splitOn '\n', ¬("global." ++ b.ns ++ "[\"").toList <+: line) →
          readBundle? (b.pushAll entries).finish = some (b.ns, entries)) := by
  constructor
  · simp only [new_eq_ok, isIdentifier_iff, exists_and_left, exists_eq, and_true]
    by_cases hempty : text = ""
    · have hdefault : ∀ s ∈ "JST".toList.splitOn '.', isIdentifier s := by decide +kernel
      simp only [namespaceOf, hempty, if_true, true_or, iff_true]
      exact fun s hs => (isIdentifier_iff s).1 (hdefault s hs)
    · simp [namespaceOf, hempty]
  · intro b hnew
    have hcount : b.ns = namespaceOf text ∧ b.count = 0 := by
      obtain ⟨-, rfl⟩ := new_eq_ok.1 hnew
      exact ⟨rfl, rfl⟩
    refine ⟨hcount.1, ?_⟩
    intro entries
    refine ⟨laidOut_finish hnew entries, ?_, ?_⟩
    · rw [pushAll_eq, hcount.2, Nat.zero_add]
    · intro h
      apply readBundle?_finish hnew
      unfold entryStart
      simpa only [String.toList_append] using h

/-- Entries that look like other ones: quotes, line ends and whole entries in a name, and further lines. -/
def confusable : List (String × String) :=
  [("say \"hi\"\\\x0d\n", "function(obj)\x7b\nreturn 1;\n\x7d"),
    ("\u2028x\"] = 1;\nglobal.App.JST[\"y", "1;\n  global.App.JST[\"z\"] = 2")]

theorem Bundle.reads_back_confusable : ∃ b, Bundle.new "App.JST" = .ok b ∧ b.ns = "App.JST"
    ∧ (∀ e ∈ confusable, ∀ line ∈ e.2.toList.splitOn '\n', ¬("global." ++ b.ns ++ "[\"").toList <+: line)
    ∧ LaidOut "App.JST" confusable (b.pushAll confusable).finish
    ∧ readBundle? (b.pushAll confusable).finish = some ("App.JST", confusable) := by
  have hsegments : ∀ s ∈ "App.JST".toList.splitOn '.', isIdentifier s := by decide +kernel
  obtain ⟨hnew, hread⟩ := Bundle.reads_back "App.JST"
  obtain ⟨b, hb⟩ := hnew.2 (.inr fun s hs => (isIdentifier_iff s).1 (hsegments s hs))
  obtain ⟨hns, hentries⟩ := hread b hb
  obtain ⟨hlaid, -, hback⟩ := hentries confusable
  have hname : b.ns = "App.JST" := hns
  rw [hname] at hlaid hback
  have hlines : ∀ e ∈ confusable, ∀ line ∈ e.2.toList.splitOn '\n',
      ¬("global." ++ "App.JST" ++ "[\"").toList <+: line := by decide +kernel
  exact ⟨b, hb, hname, hname ▸ hlines, hlaid, hback hlines⟩

end ScriptHost
