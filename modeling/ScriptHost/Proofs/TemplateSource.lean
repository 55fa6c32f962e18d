import ScriptHost.Proofs.Alternatives
import ScriptHost.Proofs.StringLiterals
import ScriptHost.Template.Library

/-!
# Nothing of a template is lost

The matches of the delimiters cut a template into literal text and tags.  If each delimiter has one group,
the expression for all tags has three, each in an alternative of its own, and its last alternative is the end
of the text; so there is always another match until the end, and the text before it becomes a string literal
of the source.

* `Visiting` — what the expression for all tags has, whatever else the delimiters are.
* `Successive` — stretches that do not overlap, in order, with the last one at the end of the text.
* `Visiting.matchesFrom` — the matches from a position on lie at such stretches.
* `Visiting.tagsOf_length` — a match has one tag at most.
* `Lossless` — a source whose literals stand for the text between the matches.
* `template_source_lossless` — **every template has such a source**.
-/

namespace ScriptHost.Template

open Regex (codesOf groupsBefore)
open Text (Units)

/-! ## The expression for all tags -/

/-- An expression with one group. -/
def OneGroup (pattern : String) : Prop :=
  ∃ x, Regex.parse (Units.ofString pattern) Delimiters.flags = .ok x ∧ x.groupCount = 2

/-- Delimiters with one group each. -/
structure Delimiters.OneGroupEach (d : Delimiters) : Prop where
  escape : OneGroup d.escape
  interpolate : OneGroup d.interpolate
  evaluate : OneGroup d.evaluate

/-- The codes of the text of a delimiter. -/
def sourceCodes (pattern : String) : List Nat :=
  codesOf (Regex.escapedSource (Units.ofString pattern)).toList

theorem OneGroup.groups {pattern : String} (h : OneGroup pattern) :
    groupsBefore [] 0 false false (sourceCodes pattern) = some 1 := by
  obtain ⟨x, hparse, hcount⟩ := h
  obtain ⟨-, hgroups⟩ := Regex.groupCount_of_parse rfl hparse
  rw [sourceCodes, Regex.groupsBefore_escapedSource, hgroups, hcount]

theorem Delimiters.codesOf_pattern (d : Delimiters) : codesOf d.pattern.toList
    = sourceCodes d.escape ++ 0x7C :: (sourceCodes d.interpolate ++ 0x7C :: (sourceCodes d.evaluate ++ [0x7C, 0x24])) := by
  have hbar : (Units.ofString "|").toList = [0x7C] := Units.ofString_toList _
  have hend : (Units.ofString "|$").toList = [0x7C, 0x24] := Units.ofString_toList _
  simp [Delimiters.pattern, sourceCodes, codesOf, hbar, hend]

/-- The groups of the expression for all tags, and of its part before the last alternative. -/
theorem Delimiters.OneGroupEach.groups {d : Delimiters} (h : d.OneGroupEach) {stop : List Nat} {n : Nat}
    (hlength : stop.length ≤ 2) (hstop : groupsBefore stop 0 false false [0x7C, 0x24] = some n) :
    groupsBefore stop 0 false false (codesOf d.pattern.toList) = some (3 + n) := by
  rw [d.codesOf_pattern, Regex.groupsBefore_alternative (by simp; omega) h.escape.groups,
    Regex.groupsBefore_alternative (by simp; omega) h.interpolate.groups,
    Regex.groupsBefore_append (by simpa using hlength) h.evaluate.groups, hstop]
  simp
  omega

/-- The groups before the bars between the delimiters. -/
theorem Delimiters.OneGroupEach.bars {d : Delimiters} (h : d.OneGroupEach) :
    (∃ stop, stop.head? = some 0x7C ∧ groupsBefore stop 0 false false (codesOf d.pattern.toList) = some 1)
      ∧ ∃ stop, stop.head? = some 0x7C ∧ groupsBefore stop 0 false false (codesOf d.pattern.toList) = some 2 := by
  have hself (cs : List Nat) : groupsBefore (0x7C :: cs) 0 false false (0x7C :: cs) = some 0 := by
    simp [Regex.groupsBefore]
  rw [d.codesOf_pattern]
  refine ⟨⟨0x7C :: (sourceCodes d.interpolate ++ 0x7C :: (sourceCodes d.evaluate ++ [0x7C, 0x24])), rfl, ?_⟩,
    ⟨0x7C :: (sourceCodes d.evaluate ++ [0x7C, 0x24]), rfl, ?_⟩⟩
  · rw [Regex.groupsBefore_append (Nat.le_refl _) h.escape.groups, hself]
    rfl
  · rw [Regex.groupsBefore_alternative (by simp) h.escape.groups,
      Regex.groupsBefore_append (Nat.le_refl _) h.interpolate.groups, hself]
    rfl

/-- What the expression for all tags has if each delimiter has one group. -/
structure Visiting (r : Regex) : Prop where
  groupCount : r.groupCount = 4
  flags : r.flags = Delimiters.flags
  final : Regex.EndsInLineEnd r.root
  apart : ∀ i j, 0 < i → i < j → j ≤ 3 → Regex.Apart i j r.root

theorem Delimiters.OneGroupEach.visiting {d : Delimiters} (h : d.OneGroupEach) {r : Regex} (hr : d.matcher = .ok r) :
    Visiting r := by
  refine ⟨?_, ?_, ?_, fun i j hi hij hj => ?_⟩
  · obtain ⟨hpos, hgroups⟩ := Regex.groupCount_of_parse rfl hr
    rw [h.groups (by simp) (n := 0) rfl] at hgroups
    have hcount := Option.some.inj hgroups
    omega
  · obtain ⟨-, -, -, -, -, -, -, hflags⟩ := Regex.parse_eq_ok rfl hr
    exact hflags
  · exact Regex.endsInLineEnd_of_parse rfl hr (by rw [h.groups (by simp) (n := 0) rfl]; rfl)
  · obtain ⟨⟨first, hfirst, hone⟩, ⟨second, hsecond, htwo⟩⟩ := h.bars
    rcases (by omega : i = 1 ∨ i = 2) with rfl | rfl
    · exact Regex.apart_of_parse rfl hr (by simp [hfirst]) hone (by omega) (by omega)
    · exact Regex.apart_of_parse rfl hr (by simp [hsecond]) htwo (by omega) (by omega)

/-! ## The matches that are visited -/

/-- Stretches of a text from a position on, one after the other, and with the last one at the end. -/
structure Successive (size pos : Nat) (spans : List (Nat × Nat)) : Prop where
  inside : ∀ x ∈ spans, pos ≤ x.1 ∧ x.1 ≤ x.2 ∧ x.2 ≤ size
  increasing : spans.Pairwise fun x y => x.2 ≤ y.1 ∧ x.1 < y.1
  last : spans.getLast? = some (size, size)

theorem Successive.single {size pos : Nat} (h : pos ≤ size) : Successive size pos [(size, size)] :=
  ⟨by simpa using h, List.pairwise_singleton .., rfl⟩

/-- A stretch may come before others that begin behind it. -/
theorem Successive.cons {size pos start stop next : Nat} {spans : List (Nat × Nat)}
    (h : Successive size next spans) (hpos : pos ≤ start) (hle : start ≤ stop) (hstop : stop ≤ size)
    (hnext : stop ≤ next) (hlt : start < next) : Successive size pos ((start, stop) :: spans) := by
  refine ⟨?_, List.pairwise_cons.mpr ⟨?_, h.increasing⟩, ?_⟩
  · intro x hx
    cases List.mem_cons.mp hx with
    | inl hfirst =>
      subst hfirst
      exact ⟨hpos, hle, hstop⟩
    | inr hrest =>
      obtain ⟨hx, hrest⟩ := h.inside x hrest
      exact ⟨by omega, hrest⟩
  · intro x hx
    have hx := (h.inside x hx).1
    exact ⟨by omega, by omega⟩
  · have hlast := h.last
    cases spans with
    | nil => cases hlast
    | cons x rest => rwa [List.getLast?_cons_cons]

/-- The stretches after the first one. -/
theorem Successive.tail {size pos start stop : Nat} {x : Nat × Nat} {spans : List (Nat × Nat)}
    (h : Successive size pos ((start, stop) :: x :: spans)) : Successive size stop (x :: spans) := by
  obtain ⟨hfirst, hincreasing⟩ := List.pairwise_cons.mp h.increasing
  refine ⟨?_, hincreasing, ?_⟩
  · intro y hy
    exact ⟨(hfirst y hy).1, (h.inside y (List.mem_cons_of_mem _ hy)).2⟩
  · have hlast := h.last
    rwa [List.getLast?_cons_cons] at hlast

/-- The matches from a position on. -/
theorem Visiting.matchesFrom {r : Regex} (h : Visiting r) (text : Units) {fuel pos : Nat}
    (hfuel : text.size + 2 ≤ fuel + pos) (hpos : pos ≤ text.size) :
    ∃ spans, (matchesFrom r text fuel pos).map (·.bounds? 0) = spans.map some ∧ Successive text.size pos spans := by
  induction fuel generalizing pos with
  | zero => omega
  | succ fuel ih =>
    have hunicode : r.flags.unicode = false := by rw [h.flags]; rfl
    have hsticky : r.flags.sticky = false := by rw [h.flags]; rfl
    have hgroups : 0 < r.groupCount := by rw [h.groupCount]; decide
    obtain ⟨c, hsearch⟩ := Option.isSome_iff_exists.mp (h.final.search_isSome hsticky hunicode hpos)
    obtain ⟨start, stop, hbounds, hstart, hle, hstop⟩ := Regex.search_bounds hgroups hunicode hpos hsearch
    generalize hnext : (if start = stop then stop + 1 else stop) = next
    have hahead : stop ≤ next ∧ start < next := by
      split at hnext <;> omega
    have hstep : Template.matchesFrom r text (fuel + 1) pos = c :: Template.matchesFrom r text fuel next := by
      rw [Template.matchesFrom, if_neg (Nat.not_lt.mpr hpos), hsearch]
      simp only [hbounds, hnext]
    rw [hstep]
    cases Nat.lt_or_ge text.size next with
    | inl hend =>
      -- the empty match at the end is the last
      have hlast : (start, stop) = (text.size, text.size) := by
        split at hnext
        · simp
          omega
        · omega
      have hnone : Template.matchesFrom r text fuel next = [] := by
        cases fuel with
        | zero => rfl
        | succ fuel => rw [Template.matchesFrom, if_pos hend]
      refine ⟨[(text.size, text.size)], ?_, .single hpos⟩
      rw [hnone, ← hlast]
      simp [hbounds]
    | inr hinside =>
      obtain ⟨spans, hspans, hsuccessive⟩ := ih (by omega) hinside
      refine ⟨(start, stop) :: spans, ?_, hsuccessive.cons hstart hle hstop hahead.1 hahead.2⟩
      rw [List.map_cons, List.map_cons, hspans, hbounds]

/-- A match that is visited was found from some position on. -/
theorem search_of_mem {r : Regex} {text : Units} {fuel pos : Nat} {c : Regex.Captures}
    (h : c ∈ matchesFrom r text fuel pos) : ∃ p, r.search text p = some c := by
  induction fuel generalizing pos with
  | zero => cases h
  | succ fuel ih =>
    unfold matchesFrom at h
    split at h
    · cases h
    · split at h
      · cases h
      · rename_i c' hsearch
        split at h
        · cases h
        · cases List.mem_cons.mp h with
          | inl hfirst => exact ⟨pos, hfirst ▸ hsearch⟩
          | inr hrest => exact ih hrest

/-- A match has one tag at most. -/
theorem Visiting.tagsOf_length {r : Regex} (h : Visiting r) (text : Units) :
    ∀ c ∈ allMatches r text, (tagsOf text c).length ≤ 1 := by
  intro c hc
  obtain ⟨pos, hsearch⟩ := search_of_mem hc
  have habsent {i : Nat} {kind : TagKind} (hi : c.bounds? i = none) : tagOf text c i kind = [] := by
    rw [tagOf, hi]
  have hone (i : Nat) (kind : TagKind) : (tagOf text c i kind).length ≤ 1 := by
    unfold tagOf
    split
    · exact Nat.zero_le 1
    · split <;> simp
  have hapart {i j : Nat} (hi : 0 < i) (hij : i < j) (hj : j ≤ 3) : c.bounds? i = none ∨ c.bounds? j = none :=
    Regex.search_apart (h.apart i j hi hij hj) (by omega) (by omega) hsearch
  simp only [tagsOf, List.length_append]
  have hescape := hone 1 .escape
  have hinterpolate := hone 2 .interpolate
  have hevaluate := hone 3 .evaluate
  rcases hapart (i := 1) (j := 2) (by decide) (by decide) (by decide) with h₁ | h₂
  · rcases hapart (i := 2) (j := 3) (by decide) (by decide) (by decide) with h₂ | h₃
    · simpa [habsent h₁, habsent h₂] using hevaluate
    · simpa [habsent h₁, habsent h₃] using hinterpolate
  · rcases hapart (i := 1) (j := 3) (by decide) (by decide) (by decide) with h₁ | h₃
    · simpa [habsent h₁, habsent h₂] using hevaluate
    · simpa [habsent h₂, habsent h₃] using hescape

/-- The matches of a text. -/
theorem Visiting.allMatches {r : Regex} (h : Visiting r) (text : Units) :
    ∃ spans, (allMatches r text).map (·.bounds? 0) = spans.map some ∧ Successive text.size 0 spans :=
  h.matchesFrom text (Nat.le_refl _) (Nat.zero_le _)

/-! ## Literal text -/

/-- The texts between neighbouring stretches. -/
def gaps (text : Units) (pos : Nat) (spans : List (Nat × Nat)) : List Units :=
  List.zipWith text.slice (pos :: spans.map (·.2)) (spans.map (·.1))

/-- The texts of stretches. -/
def parts (text : Units) (spans : List (Nat × Nat)) : List Units :=
  spans.map fun (start, stop) => text.slice start stop

/-- Texts by turns, as one text. -/
def byTurns (as bs : List (List UInt16)) : List UInt16 := (List.zipWith (· ++ ·) as bs).flatten

/-- A part of a text and what is behind it. -/
theorem slice_append_drop (text : Units) {i j : Nat} (h : i ≤ j) :
    (text.slice i j).toList ++ text.toList.drop j = text.toList.drop i := by
  have hslice : (text.slice i j).toList = (text.toList.drop i).take (j - i) := by simp [Units.slice]
  have hdrop : text.toList.drop j = (text.toList.drop i).drop (j - i) := by
    rw [List.drop_drop, Nat.add_sub_cancel' h]
  rw [hslice, hdrop, List.take_append_drop]

/-- Gaps and stretches make up the text. -/
theorem byTurns_gaps_parts (text : Units) {pos : Nat} {spans : List (Nat × Nat)} (h : Successive text.size pos spans) :
    byTurns ((gaps text pos spans).map Array.toList) ((parts text spans).map Array.toList) = text.toList.drop pos := by
  induction spans generalizing pos with
  | nil => cases h.last
  | cons x rest ih =>
    obtain ⟨start, stop⟩ := x
    obtain ⟨hstart, hstop, -⟩ := h.inside _ List.mem_cons_self
    have hcons : byTurns ((gaps text pos ((start, stop) :: rest)).map Array.toList)
        ((parts text ((start, stop) :: rest)).map Array.toList)
        = (text.slice pos start).toList ++ (text.slice start stop).toList
          ++ byTurns ((gaps text stop rest).map Array.toList) ((parts text rest).map Array.toList) := rfl
    have hrest : byTurns ((gaps text stop rest).map Array.toList) ((parts text rest).map Array.toList)
        = text.toList.drop stop := by
      cases rest with
      | nil =>
        have hlast : (start, stop) = (text.size, text.size) := Option.some.inj h.last
        rw [(Prod.mk.inj hlast).2]
        simp [byTurns, gaps, parts]
      | cons y rest => exact ih h.tail
    rw [hcons, hrest, List.append_assoc, slice_append_drop text hstop, slice_append_drop text hstart]

/-! ## The source -/

/-- The code that a match puts between two literals. -/
def tagText (text : Units) (c : Regex.Captures) : List UInt16 :=
  (tagsOf text c).flatMap fun p => p.source.toList

/-- The source of the function before the first literal. -/
def frameHead : Units :=
  Units.ofString "function(obj)\x7b\n"
    ++ Units.ofString ("var __t,__p='',__j=Array.prototype.join,"
      ++ "print=function()\x7b__p+=__j.call(arguments,'');\x7d;\nwith(obj||\x7b\x7d)\x7b\n")
    ++ Units.ofString "__p+='"

/-- The source of the function after the last literal. -/
def frameTail : Units :=
  Units.ofString "';\n" ++ Units.ofString "\x7d\nreturn __p;\n" ++ Units.ofString "\x7d"

theorem functionSource_toList (ps : List Piece) : (functionSource ps).toList
    = frameHead.toList ++ ps.flatMap (fun p => p.source.toList) ++ frameTail.toList := by
  have hfold (us : Units) : (ps.foldl (fun out p => out ++ p.source) us).toList
      = us.toList ++ ps.flatMap fun p => p.source.toList := by
    induction ps generalizing us with
    | nil => simp
    | cons p ps ih => rw [List.foldl_cons, ih, List.flatMap_cons, Array.toList_append, List.append_assoc]
  simp only [functionSource, bodySource, statementsSource, frameHead, frameTail, Array.toList_append, hfold,
    List.append_assoc]

/-- The pieces are the gaps, each as literal text, and the tags by turns. -/
theorem piecesFrom_source (text : Units) {cs : List Regex.Captures} {spans : List (Nat × Nat)}
    (h : cs.map (·.bounds? 0) = spans.map some) (pos : Nat) :
    (piecesFrom text pos cs).flatMap (fun p => p.source.toList)
      = byTurns ((gaps text pos spans).map fun gap => (quoteUnits gap).toList) (cs.map (tagText text)) := by
  induction cs generalizing pos spans with
  | nil =>
    cases spans with
    | nil => rfl
    | cons x rest => cases h
  | cons c cs ih =>
    cases spans with
    | nil => cases h
    | cons x rest =>
      obtain ⟨start, stop⟩ := x
      obtain ⟨hbounds, hrest⟩ := List.cons.inj h
      have hturn : byTurns ((gaps text pos ((start, stop) :: rest)).map fun gap => (quoteUnits gap).toList)
          ((c :: cs).map (tagText text)) = (quoteUnits (text.slice pos start)).toList ++ tagText text c
            ++ byTurns ((gaps text stop rest).map fun gap => (quoteUnits gap).toList) (cs.map (tagText text)) := rfl
      rw [hturn, ← ih hrest stop]
      simp [piecesFrom, hbounds, tagText, Piece.source]

/-! ## Nothing is lost -/

/-- A text that is cut at stretches into literals, with nothing of it lost. -/
structure Lossless (r : Regex) (text : Units) (spans : List (Nat × Nat)) (literals : List (List UInt16)) : Prop where
  /-- The stretches are those of the matches that are visited. -/
  visited : (allMatches r text).map (·.bounds? 0) = spans.map some
  successive : Successive text.size 0 spans
  /-- The source has the literals and the code of the matches by turns, in a fixed frame. -/
  source : (functionSource (pieces r text)).toList = frameHead.toList
    ++ byTurns literals ((allMatches r text).map (tagText text)) ++ frameTail.toList
  oneTag : ∀ c ∈ allMatches r text, (tagsOf text c).length ≤ 1
  /-- Each literal is read as the text between two neighbouring matches. -/
  decoded : literals.map (fun literal => literalValue? (inQuotes literal))
    = (gaps text 0 spans).map fun gap => some gap.toList
  oneLine : ∀ literal ∈ literals, ∀ u ∈ literal, endsLine u = false
  /-- These texts and those of the matches make up the whole. -/
  complete : byTurns ((gaps text 0 spans).map Array.toList) ((parts text spans).map Array.toList) = text.toList

theorem Visiting.lossless {r : Regex} (h : Visiting r) (text : Units) : ∃ spans literals, Lossless r text spans literals := by
  obtain ⟨spans, hvisited, hsuccessive⟩ := h.allMatches text
  refine ⟨spans, (gaps text 0 spans).map fun gap => (quoteUnits gap).toList, hvisited, hsuccessive, ?_, h.tagsOf_length text, ?_, ?_, ?_⟩
  · rw [functionSource_toList, pieces, piecesFrom_source text hvisited]
  · rw [List.map_map]
    refine List.map_congr_left fun gap _ => ?_
    exact literalValue?_quoteUnits gap
  · intro literal hliteral
    obtain ⟨gap, -, rfl⟩ := List.mem_map.mp hliteral
    exact not_endsLine_quoteUnits gap
  · rw [byTurns_gaps_parts text hsuccessive, List.drop_zero]

/-- The source of a template loses nothing of its text. -/
theorem template_source_lossless {d : Delimiters} (h : d.OneGroupEach) {r : Regex} (hr : d.matcher = .ok r) :
    (∀ text, ∃ spans literals, Lossless r text spans literals)
      ∧ ∀ s source, compileText d s = .source source ↔ checkSource (bodySource (pieces r (Units.ofString s))) = .function
        ∧ source = functionSource (pieces r (Units.ofString s)) := by
  have hvisiting := h.visiting hr
  refine ⟨hvisiting.lossless, fun s source => ?_⟩
  have hcount : ¬r.groupCount ≠ 4 := by simp [hvisiting.groupCount]
  simp only [compileText, hr, cutText, if_neg hcount]
  cases checkSource (bodySource (pieces r (Units.ofString s))) with
  | function => simp [eq_comm]
  | syntaxFault message place => simp
  | program => simp

/-! ### The standard delimiters -/

/-- Whether an expression has one group. -/
def hasOneGroup (us : Units) : Bool :=
  match Regex.parse us Delimiters.flags with
  | .ok x => x.groupCount == 2
  | .error _ => false

theorem OneGroup.of_units {pattern : String} {us : Units} (hunits : Units.ofString pattern = us)
    (h : hasOneGroup us) : OneGroup pattern := by
  unfold hasOneGroup at h
  split at h
  · rename_i x hparse
    exact ⟨x, hunits ▸ hparse, beq_iff_eq.mp h⟩
  · cases h

theorem standard_oneGroupEach : Delimiters.standard.OneGroupEach := by
  refine ⟨.of_units (Units.ofString_eq _) ?_, .of_units (Units.ofString_eq _) ?_, .of_units (Units.ofString_eq _) ?_⟩
  · decide +kernel
  · decide +kernel
  · decide +kernel

theorem standard_matcher : ∃ r, Delimiters.standard.matcher = .ok r := by
  have hok : Delimiters.standard.matcher.toOption.isSome := by
    unfold Delimiters.matcher Delimiters.pattern
    simp only [Units.ofString_eq]
    decide +kernel
  cases hmatcher : Delimiters.standard.matcher with
  | ok r => exact ⟨r, rfl⟩
  | error e =>
    rw [hmatcher] at hok
    cases hok

theorem template_source_lossless_standard : ∃ r, Delimiters.standard.OneGroupEach
    ∧ Delimiters.standard.matcher = .ok r
    ∧ (∃ spans literals, Lossless r (Units.ofString "It's <%= name %>\n") spans literals)
    ∧ ∀ source, compileText .standard "It's <%= name %>\n" = .source source
      ↔ checkSource (bodySource (pieces r (Units.ofString "It's <%= name %>\n"))) = .function
        ∧ source = functionSource (pieces r (Units.ofString "It's <%= name %>\n")) := by
  obtain ⟨r, hr⟩ := standard_matcher
  obtain ⟨hlossless, hcompiled⟩ := template_source_lossless standard_oneGroupEach hr
  exact ⟨r, standard_oneGroupEach, hr, hlossless _, hcompiled _⟩

end ScriptHost.Template
