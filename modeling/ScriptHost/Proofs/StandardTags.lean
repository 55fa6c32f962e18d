import ScriptHost.Proofs.LazyGroups
import ScriptHost.Proofs.TemplateSource

/-!
# The tags of the standard delimiters

The standard delimiters are three regular expressions that begin alike, are tried in order, and each go back over
the text until a `%>` lets them end.  Which tags do they find?  Those of a scan that knows no expressions: it goes
from left to right, and looks at what stands at a place and where the next `%>` is.

* `Tag`, `Stands` — the stretch of a tag, and which tag stands at a place of a text.
* `Scan` — the tags of a text, each at the first place behind the one before it where a tag can start.
* `standard_matcher_eq` — the expression for all tags.
* `matchAt_of_stands`, `matchAt_eq_none` — it matches where a tag stands, and nowhere else but at the end.
* `standard_tags` — **every text has one scan, and is cut into pieces by it**.
-/

namespace ScriptHost.Template

open Regex (Node Subject Captures Continuation StandsAt Spells lazyGroup)
open Text (Units)

variable {text : Units} {i j pos : Nat} {t : Tag}

/-! ## The scan -/

/-- A text shows some characters at a place. -/
def Shows (text : Units) (part : String) (i : Nat) : Prop := StandsAt text (Units.ofChars part.toList) i

instance (text : Units) (part : String) (i : Nat) : Decidable (Shows text part i) :=
  inferInstanceAs (Decidable (StandsAt text (Units.ofChars part.toList) i))

/-- The first place from a position on where a tag may end. -/
structure ClosesFirst (text : Units) (pos j : Nat) : Prop where
  from_le : pos ≤ j
  shows : Shows text "%>" j
  first : ∀ l, pos ≤ l → l < j → ¬Shows text "%>" l

/-- A tag may end somewhere from a position on. -/
def CanClose (text : Units) (pos : Nat) : Prop := ∃ j, pos ≤ j ∧ Shows text "%>" j

/-- The stretch of a tag: where it starts, and the bounds of its code. -/
structure Tag where
  kind : TagKind
  start : Nat
  codeStart : Nat
  codeStop : Nat
deriving DecidableEq

namespace Tag

/-- The end of a tag, behind the two characters that close it. -/
def stop (t : Tag) : Nat := t.codeStop + 2

end Tag

/-- The tag that stands at a place of a text.  Where `<%-` or `<%=` stands but would have no code, the third character
is the first one of the code. -/
inductive Stands (text : Units) (i : Nat) : Tag → Prop where
  | escape {j : Nat} (hopen : Shows text "<%-" i) (hclose : ClosesFirst text (i + 4) j) :
    Stands text i ⟨.escape, i, i + 3, j⟩
  | interpolate {j : Nat} (hopen : Shows text "<%=" i) (hclose : ClosesFirst text (i + 4) j) :
    Stands text i ⟨.interpolate, i, i + 3, j⟩
  | evaluate {j : Nat} (hopen : Shows text "<%" i)
    (hother : Shows text "<%-" i ∨ Shows text "<%=" i → ¬CanClose text (i + 4)) (hclose : ClosesFirst text (i + 3) j) :
    Stands text i ⟨.evaluate, i, i + 2, j⟩

/-- A tag can start at a place. -/
def CanStart (text : Units) (i : Nat) : Prop := Shows text "<%" i ∧ CanClose text (i + 3)

/-- The tags of a text from a position on: the first one stands where one can start first. -/
inductive Scan (text : Units) : Nat → List Tag → Prop where
  | done {pos : Nat} (hnone : ∀ l, pos ≤ l → ¬CanStart text l) : Scan text pos []
  | tag {pos i : Nat} {t : Tag} {rest : List Tag} (hpos : pos ≤ i) (hfirst : ∀ l, pos ≤ l → l < i → ¬CanStart text l)
    (hstands : Stands text i t) (hrest : Scan text t.stop rest) : Scan text pos (t :: rest)

/-- A text from a position on, cut at tags. -/
def cut (text : Units) : Nat → List Tag → List Piece
  | pos, [] => [.literal (text.slice pos text.size)]
  | pos, t :: rest => .literal (text.slice pos t.start) :: .tag t.kind (text.slice t.codeStart t.codeStop)
    :: cut text t.stop rest

/-! ## There is one scan -/

/-- Of two characters, one at most stands behind others. -/
theorem standsAt_unique {part : List UInt16} {u v : UInt16} (hu : StandsAt text (part ++ [u]) i)
    (hv : StandsAt text (part ++ [v]) i) : u = v := by
  have hsame := List.prefix_of_prefix_length_le hu hv (by simp)
  simpa using hsame.eq_of_length (by simp)

theorem standsAt_opener {u : UInt16} (h : StandsAt text (Units.ofChars ['<', '%'] ++ [u]) i) : Shows text "<%" i :=
  (Regex.standsAt_append.1 h).1

theorem not_escape_and_interpolate (hescape : Shows text "<%-" i) (hinterpolate : Shows text "<%=" i) : False := by
  have hminus : StandsAt text (Units.ofChars ['<', '%'] ++ [0x2D]) i := hescape
  have hequals : StandsAt text (Units.ofChars ['<', '%'] ++ [0x3D]) i := hinterpolate
  exact absurd (standsAt_unique hminus hequals) (by decide)

theorem Shows.le_size {part : String} (h : Shows text part i) (hne : Units.ofChars part.toList ≠ []) :
    i + (Units.ofChars part.toList).length ≤ text.size := StandsAt.le_size h hne

theorem Shows.close_le (h : Shows text "%>" j) : j + 2 ≤ text.size := h.le_size (by decide)

theorem exists_closesFirst (h : CanClose text pos) : ∃ j, ClosesFirst text pos j := by
  classical
  obtain ⟨hle, hshows⟩ := Nat.find_spec h
  refine ⟨Nat.find h, hle, hshows, ?_⟩
  intro l hl hlt hclose
  exact Nat.find_min h hlt ⟨hl, hclose⟩

theorem ClosesFirst.canClose (h : ClosesFirst text pos j) : CanClose text pos := ⟨j, h.from_le, h.shows⟩

theorem CanClose.mono (h : CanClose text j) (hle : i ≤ j) : CanClose text i := by
  obtain ⟨l, hl, hshows⟩ := h
  exact ⟨l, Nat.le_trans hle hl, hshows⟩

theorem ClosesFirst.unique {l : Nat} (hj : ClosesFirst text pos j) (hl : ClosesFirst text pos l) : j = l := by
  rcases Nat.lt_trichotomy j l with hlt | heq | hlt
  · exact absurd hj.shows (hl.first j hj.from_le hlt)
  · exact heq
  · exact absurd hl.shows (hj.first l hl.from_le hlt)

namespace Stands

theorem start_eq (h : Stands text i t) : t.start = i := by cases h <;> rfl

theorem canStart (h : Stands text i t) : CanStart text i := by
  cases h with
  | escape hopen hclose => exact ⟨standsAt_opener hopen, hclose.canClose.mono (Nat.le_succ _)⟩
  | interpolate hopen hclose => exact ⟨standsAt_opener hopen, hclose.canClose.mono (Nat.le_succ _)⟩
  | evaluate hopen hother hclose => exact ⟨hopen, hclose.canClose⟩

/-- A tag has some code and lies inside the text. -/
theorem bounds (h : Stands text i t) : i < t.codeStart ∧ t.codeStart < t.codeStop ∧ t.codeStop + 2 ≤ text.size := by
  cases h with
  | escape hopen hclose => exact ⟨Nat.lt_add_of_pos_right (by decide), hclose.from_le, hclose.shows.close_le⟩
  | interpolate hopen hclose => exact ⟨Nat.lt_add_of_pos_right (by decide), hclose.from_le, hclose.shows.close_le⟩
  | evaluate hopen hother hclose => exact ⟨Nat.lt_add_of_pos_right (by decide), hclose.from_le, hclose.shows.close_le⟩

/-- One tag stands at a place. -/
theorem unique {t' : Tag} (h : Stands text i t) (h' : Stands text i t') : t = t' := by
  cases h with
  | escape hopen hclose =>
    cases h' with
    | escape _ hclose' => rw [hclose.unique hclose']
    | interpolate hopen' _ => exact (not_escape_and_interpolate hopen hopen').elim
    | evaluate _ hother' _ => exact (hother' (.inl hopen) hclose.canClose).elim
  | interpolate hopen hclose =>
    cases h' with
    | escape hopen' _ => exact (not_escape_and_interpolate hopen' hopen).elim
    | interpolate _ hclose' => rw [hclose.unique hclose']
    | evaluate _ hother' _ => exact (hother' (.inr hopen) hclose.canClose).elim
  | evaluate _ hother hclose =>
    cases h' with
    | escape hopen' hclose' => exact (hother (.inl hopen') hclose'.canClose).elim
    | interpolate hopen' hclose' => exact (hother (.inr hopen') hclose'.canClose).elim
    | evaluate _ _ hclose' => rw [hclose.unique hclose']

end Stands

/-- Where a tag can start, one stands. -/
theorem exists_stands (h : CanStart text i) : ∃ t, Stands text i t := by
  obtain ⟨hopen, hclose⟩ := h
  by_cases hother : (Shows text "<%-" i ∨ Shows text "<%=" i) ∧ CanClose text (i + 4)
  · obtain ⟨hother, hclose⟩ := hother
    obtain ⟨j, hj⟩ := exists_closesFirst hclose
    cases hother with
    | inl hescape => exact ⟨_, .escape hescape hj⟩
    | inr hinterpolate => exact ⟨_, .interpolate hinterpolate hj⟩
  · obtain ⟨j, hj⟩ := exists_closesFirst hclose
    exact ⟨_, .evaluate hopen (fun hopener hlate => hother ⟨hopener, hlate⟩) hj⟩

/-- Every text has a scan: what is left behind a tag is shorter. -/
theorem exists_scan (text : Units) (pos : Nat) : ∃ tags, Scan text pos tags := by
  classical
  induction hleft : text.size - pos using Nat.strongRecOn generalizing pos with
  | _ left ih =>
    by_cases hcan : ∃ i, pos ≤ i ∧ CanStart text i
    · obtain ⟨hpos, hstart⟩ := Nat.find_spec hcan
      obtain ⟨t, hstands⟩ := exists_stands hstart
      obtain ⟨hcode, hstop, hsize⟩ := hstands.bounds
      obtain ⟨rest, hrest⟩ := ih (text.size - (t.codeStop + 2)) (by omega) (t.codeStop + 2) rfl
      refine ⟨t :: rest, .tag hpos ?_ hstands hrest⟩
      intro l hl hlt hearly
      exact Nat.find_min hcan hlt ⟨hl, hearly⟩
    · refine ⟨[], .done ?_⟩
      intro l hl hstart
      exact hcan ⟨l, hl, hstart⟩

/-- And it has one scan only. -/
theorem Scan.unique {tags tags' : List Tag} (h : Scan text pos tags) (h' : Scan text pos tags') : tags = tags' := by
  induction h generalizing tags' with
  | done hnone =>
    cases h' with
    | done => rfl
    | tag hpos _ hstands _ => exact absurd hstands.canStart (hnone _ hpos)
  | @tag pos i t rest hpos hfirst hstands _ ih =>
    cases h' with
    | done hnone => exact absurd hstands.canStart (hnone _ hpos)
    | @tag _ i' t' rest' hpos' hfirst' hstands' hrest' =>
      obtain rfl : i = i' := by
        rcases Nat.lt_trichotomy i i' with hlt | heq | hlt
        · exact absurd hstands.canStart (hfirst' _ hpos hlt)
        · exact heq
        · exact absurd hstands'.canStart (hfirst _ hpos' hlt)
      obtain rfl := hstands.unique hstands'
      rw [ih hrest']

/-! ## The expression for all tags -/

/-- Any one character, as the delimiters write it. -/
def anyCharacter : Node := .set ⟨false, Regex.gaps 0 Regex.spaceRanges ++ Regex.spaceRanges⟩

/-- The expression of a delimiter: what opens a tag, the group of its code, and what closes it. -/
def tagNode (opener : Node) (group : Nat) : Node :=
  .seq (.seq (.seq opener (lazyGroup group anyCharacter (group + 1) (group + 1))) (.char 0x25)) (.char 0x3E)

/-- What opens every tag. -/
def openerNode : Node := .seq (.char 0x3C) (.char 0x25)

/-- The expression for all tags and the end of the text. -/
def standardRegex : Regex where
  root := .alt (tagNode (.seq openerNode (.char 0x2D)) 1)
    (.alt (tagNode (.seq openerNode (.char 0x3D)) 2) (.alt (tagNode openerNode 3) .lineEnd))
  groupCount := 4
  names := []
  flags := Delimiters.flags

theorem standard_matcher_eq : Delimiters.standard.matcher = .ok standardRegex := by
  unfold Delimiters.matcher Delimiters.pattern
  simp only [Units.ofString_eq]
  with_unfolding_all rfl

/-- A text that is searched for tags. -/
def subject (text : Units) : Subject := ⟨text, Delimiters.flags⟩

theorem subject_plain (text : Units) : (subject text).Plain := ⟨rfl, rfl⟩

theorem takesAny_anyCharacter (text : Units) : Regex.TakesAny (subject text) anyCharacter := by
  refine ⟨_, rfl, ?_⟩
  intro u
  have hlt := u.toNat_lt
  simp [Subject.inSet, Regex.rangesContain, Regex.gaps, Regex.spaceRanges, subject, Delimiters.flags]
  omega

section

variable {opener : Node} {part : List UInt16} {group : Nat} {caps : Captures} {k : Continuation} {r : Nat × Captures}

/-- What is left when a tag has been opened. -/
theorem run_tagNode (hopener : Spells (subject text) opener part) :
    (tagNode opener group).run (subject text) false pos caps k = if StandsAt text part pos then
      (lazyGroup group anyCharacter (group + 1) (group + 1)).run (subject text) false (pos + part.length) caps
        (fun p c => if Shows text "%>" p then k (p + 2) c else none) else none := by
  have hclose : Spells (subject text) (.seq (.char 0x25) (.char 0x3E)) [0x25, 0x3E] :=
    (Regex.spells_char (subject_plain text) 0x25).seq (Regex.spells_char (subject_plain text) 0x3E)
  have hrest : (fun p c => (Node.seq (.char 0x25) (.char 0x3E)).run (subject text) false p c k)
      = fun p c => if Shows text "%>" p then k (p + 2) c else none := by
    funext p c
    exact hclose p c k
  rw [← hrest]
  exact hopener pos caps _

/-- A tag ends at the first `%>` that leaves it some code. -/
theorem run_tagNode_of_closes (hopener : Spells (subject text) opener part) (hopen : StandsAt text part pos)
    (hclose : ClosesFirst text (pos + part.length + 1) j)
    (hk : k (j + 2) (caps.withGroup group (pos + part.length) j) = some r) :
    (tagNode opener group).run (subject text) false pos caps k = some r := by
  have hsize := hclose.shows.close_le
  rw [run_tagNode hopener, if_pos hopen]
  apply Regex.run_lazyGroup_of_first (subject_plain text) (takesAny_anyCharacter text) hclose.from_le
    (show j ≤ text.size by omega)
  · intro l hl hlt
    rw [if_neg (hclose.first l hl hlt)]
  · rw [if_pos hclose.shows, hk]

theorem run_tagNode_eq_none (hopener : Spells (subject text) opener part)
    (h : StandsAt text part pos → ¬CanClose text (pos + part.length + 1)) :
    (tagNode opener group).run (subject text) false pos caps k = none := by
  rw [run_tagNode hopener]
  split
  · next hopen =>
    apply Regex.run_lazyGroup_eq_none (subject_plain text) (takesAny_anyCharacter text)
    intro l hl
    rw [if_neg]
    intro hshows
    exact h hopen ⟨l, hl, hshows⟩
  · rfl

end

/-! ## Matches -/

/-- The group of the code of a tag. -/
def TagKind.group : TagKind → Nat
  | .escape => 1
  | .interpolate => 2
  | .evaluate => 3

/-- The captures before a match. -/
def noCaptures : Captures := Array.replicate 8 none

/-- The captures of the match of a tag. -/
def Tag.captures (t : Tag) : Captures :=
  (noCaptures.withGroup t.kind.group t.codeStart t.codeStop).withGroup 0 t.start t.stop

/-- The captures of the match at the end of a text. -/
def endCaptures (size : Nat) : Captures := noCaptures.withGroup 0 size size

theorem spells_opener (text : Units) : Spells (subject text) openerNode (Units.ofChars ['<', '%']) :=
  (Regex.spells_char (subject_plain text) 0x3C).seq (Regex.spells_char (subject_plain text) 0x25)

theorem spells_longer (text : Units) (u : UInt16) :
    Spells (subject text) (.seq openerNode (.char u.toNat)) (Units.ofChars ['<', '%'] ++ [u]) :=
  (spells_opener text).seq (Regex.spells_char (subject_plain text) u)

theorem matchAt_of_run {stop : Nat} {caps : Captures} (h : standardRegex.root.run (subject text) false i noCaptures
    (fun p c => some (p, c)) = some (stop, caps)) : Regex.matchAt standardRegex text i = some (caps.withGroup 0 i stop) := by
  have hrun : standardRegex.root.run ⟨text, standardRegex.flags⟩ false i
      (Array.replicate (2 * standardRegex.groupCount) none) (fun p c => some (p, c)) = some (stop, caps) := h
  unfold Regex.matchAt
  simp only [hrun]
  rfl

/-- The expression matches where a tag stands. -/
theorem matchAt_of_stands (h : Stands text i t) : Regex.matchAt standardRegex text i = some t.captures := by
  cases h with
  | escape hopen hclose =>
    refine matchAt_of_run (Regex.run_alt_of_some ?_)
    exact run_tagNode_of_closes (spells_longer text 0x2D) hopen hclose rfl
  | interpolate hopen hclose =>
    refine matchAt_of_run ?_
    refine (Regex.run_alt_of_none ?_).trans (Regex.run_alt_of_some ?_)
    · apply run_tagNode_eq_none (spells_longer text 0x2D)
      intro hescape
      exact (not_escape_and_interpolate hescape hopen).elim
    · exact run_tagNode_of_closes (spells_longer text 0x3D) hopen hclose rfl
  | evaluate hopen hother hclose =>
    refine matchAt_of_run ?_
    refine (Regex.run_alt_of_none ?_).trans ((Regex.run_alt_of_none ?_).trans (Regex.run_alt_of_some ?_))
    · apply run_tagNode_eq_none (spells_longer text 0x2D)
      intro hescape
      exact hother (.inl hescape)
    · apply run_tagNode_eq_none (spells_longer text 0x3D)
      intro hinterpolate
      exact hother (.inr hinterpolate)
    · exact run_tagNode_of_closes (spells_opener text) hopen hclose rfl

/-- Where no tag can start, only the end of the text is left. -/
theorem run_of_not_canStart (h : ¬CanStart text i) (caps : Captures) (k : Continuation) :
    standardRegex.root.run (subject text) false i caps k = Node.lineEnd.run (subject text) false i caps k := by
  have hlonger {u : UInt16} (hopen : StandsAt text (Units.ofChars ['<', '%'] ++ [u]) i) : ¬CanClose text (i + 4) := by
    intro hclose
    exact h ⟨standsAt_opener hopen, hclose.mono (Nat.le_succ _)⟩
  refine (Regex.run_alt_of_none ?_).trans ((Regex.run_alt_of_none ?_).trans (Regex.run_alt_of_none ?_))
  · exact run_tagNode_eq_none (spells_longer text 0x2D) hlonger
  · exact run_tagNode_eq_none (spells_longer text 0x3D) hlonger
  · apply run_tagNode_eq_none (spells_opener text)
    intro hopen hclose
    exact h ⟨hopen, hclose⟩

theorem matchAt_eq_none (h : ¬CanStart text i) (hne : i ≠ text.size) : Regex.matchAt standardRegex text i = none := by
  have hrun : standardRegex.root.run ⟨text, standardRegex.flags⟩ false i
      (Array.replicate (2 * standardRegex.groupCount) none) (fun p c => some (p, c)) = none := by
    refine (run_of_not_canStart h _ _).trans ?_
    simp [Node.run, subject, Delimiters.flags, hne]
  unfold Regex.matchAt
  simp only [hrun]

theorem CanStart.lt_size (h : CanStart text i) : i < text.size := by
  have hle := h.1.le_size (by decide)
  have hlength : (Units.ofChars "<%".toList).length = 2 := by decide
  omega

theorem matchAt_end (text : Units) : Regex.matchAt standardRegex text text.size = some (endCaptures text.size) := by
  refine matchAt_of_run ((run_of_not_canStart ?_ _ _).trans ?_)
  · intro hstart
    exact absurd hstart.lt_size (Nat.lt_irrefl _)
  · simp [Node.run, subject]

/-! ## Pieces -/

theorem bounds?_noCaptures (i : Nat) : noCaptures.bounds? i = none := by
  rw [Regex.bounds?_eq_none, noCaptures, Array.getElem?_replicate]
  split <;> simp

@[simp] theorem Tag.bounds?_captures (t : Tag) : t.captures.bounds? 0 = some (t.start, t.stop) :=
  Regex.bounds?_withGroup_self (by simp [noCaptures]) ..

@[simp] theorem bounds?_endCaptures (size : Nat) : (endCaptures size).bounds? 0 = some (size, size) :=
  Regex.bounds?_withGroup_self (by simp [noCaptures]) ..

theorem Tag.bounds?_group (t : Tag) (kind : TagKind) :
    t.captures.bounds? kind.group = if kind = t.kind then some (t.codeStart, t.codeStop) else none := by
  have hwhole : kind.group ≠ 0 := by cases kind <;> decide
  rw [Tag.captures, Regex.bounds?_withGroup_of_ne hwhole]
  by_cases hkind : kind = t.kind
  · have hsize : 2 * t.kind.group + 1 < noCaptures.size := by cases t.kind <;> decide
    rw [if_pos hkind, hkind, Regex.bounds?_withGroup_self hsize]
  · have hgroup : kind.group ≠ t.kind.group := by
      revert hkind
      cases kind <;> cases t.kind <;> decide
    rw [if_neg hkind, Regex.bounds?_withGroup_of_ne hgroup, bounds?_noCaptures]

/-- The match of a tag has the code of the tag, in the group of its kind. -/
theorem Tag.tagsOf_captures {t : Tag} (h : t.codeStart < t.codeStop) (text : Units) :
    tagsOf text t.captures = [.tag t.kind (text.slice t.codeStart t.codeStop)] := by
  have hgroup (kind : TagKind) : tagOf text t.captures kind.group kind
      = if kind = t.kind then [.tag t.kind (text.slice t.codeStart t.codeStop)] else [] := by
    unfold tagOf
    rw [t.bounds?_group]
    by_cases hkind : kind = t.kind
    · simp [hkind, Nat.ne_of_lt h]
    · simp [hkind]
  have hall : tagsOf text t.captures = tagOf text t.captures (TagKind.group .escape) .escape
      ++ tagOf text t.captures (TagKind.group .interpolate) .interpolate
      ++ tagOf text t.captures (TagKind.group .evaluate) .evaluate := rfl
  rw [hall, hgroup, hgroup, hgroup]
  cases t.kind <;> rfl

@[simp] theorem tagsOf_endCaptures (text : Units) : tagsOf text (endCaptures text.size) = [] := by
  have hgroup {i : Nat} (hi : i ≠ 0) (kind : TagKind) : tagOf text (endCaptures text.size) i kind = [] := by
    rw [tagOf, endCaptures, Regex.bounds?_withGroup_of_ne hi, bounds?_noCaptures]
  simp [tagsOf, hgroup]

theorem search_of_stands (hpos : pos ≤ i) (hfirst : ∀ l, pos ≤ l → l < i → ¬CanStart text l) (h : Stands text i t) :
    Regex.search standardRegex text pos = some t.captures := by
  have hlt := h.canStart.lt_size
  refine Regex.search_of_first rfl rfl hpos (Nat.le_of_lt hlt) ?_ (matchAt_of_stands h)
  intro l hl hlt'
  exact matchAt_eq_none (hfirst l hl hlt') (by omega)

theorem search_of_none (hpos : pos ≤ text.size) (hnone : ∀ l, pos ≤ l → ¬CanStart text l) :
    Regex.search standardRegex text pos = some (endCaptures text.size) := by
  refine Regex.search_of_first rfl rfl hpos (Nat.le_refl _) ?_ (matchAt_end text)
  intro l hl hlt
  exact matchAt_eq_none (hnone l hl) (by omega)

/-- The matches that are visited are the tags of the scan, and the end. -/
theorem Scan.matchesFrom {tags : List Tag} {fuel : Nat} (h : Scan text pos tags) (hpos : pos ≤ text.size)
    (hfuel : text.size + 2 ≤ fuel + pos) :
    Template.matchesFrom standardRegex text fuel pos = tags.map Tag.captures ++ [endCaptures text.size] := by
  induction h generalizing fuel with
  | @done pos hnone =>
    obtain ⟨fuel, rfl⟩ : ∃ n, fuel = n + 2 := ⟨fuel - 2, by omega⟩
    simp [Template.matchesFrom, Nat.not_lt.2 hpos, search_of_none hpos hnone]
  | @tag pos i t rest hle hfirst hstands _ ih =>
    obtain ⟨hcode, hstop, hsize⟩ := hstands.bounds
    have hstart := hstands.start_eq
    obtain ⟨fuel, rfl⟩ : ∃ n, fuel = n + 1 := ⟨fuel - 1, by omega⟩
    have hne : t.start ≠ t.stop := by
      unfold Tag.stop
      omega
    have hrest : Template.matchesFrom standardRegex text fuel t.stop = rest.map Tag.captures ++ [endCaptures text.size] := by
      unfold Tag.stop at ih ⊢
      exact ih hsize (by omega)
    simp [Template.matchesFrom, Nat.not_lt.2 hpos, search_of_stands hle hfirst hstands, hne, hrest]

theorem Scan.piecesFrom {tags : List Tag} (h : Scan text pos tags) :
    Template.piecesFrom text pos (tags.map Tag.captures ++ [endCaptures text.size]) = cut text pos tags := by
  induction h with
  | done hnone =>
    simp [Template.piecesFrom, cut]
  | tag hle hfirst hstands _ ih =>
    simp [Template.piecesFrom, cut, Tag.tagsOf_captures hstands.bounds.2.1, ih]

theorem Scan.pieces {tags : List Tag} (h : Scan text 0 tags) : Template.pieces standardRegex text = cut text 0 tags := by
  have hmatches : allMatches standardRegex text = tags.map Tag.captures ++ [endCaptures text.size] :=
    h.matchesFrom (Nat.zero_le _) (Nat.le_refl _)
  rw [Template.pieces, hmatches, h.piecesFrom]

/-- With the standard delimiters every text is cut at the tags of its one scan, and what is compiled is made of these
pieces. -/
theorem standard_tags : ∃ r, Delimiters.standard.matcher = .ok r ∧ ∀ text, ∃ tags,
    (∀ found, Scan text 0 found ↔ found = tags) ∧ pieces r text = cut text 0 tags
      ∧ ∀ template, Units.ofString template = text → compileText .standard template =
        match checkSource (bodySource (cut text 0 tags)) with
        | .function => .source (functionSource (cut text 0 tags))
        | .syntaxFault message place => .fault (syntaxReport message place)
        | .program => .undecided := by
  refine ⟨standardRegex, standard_matcher_eq, ?_⟩
  intro text
  obtain ⟨tags, hscan⟩ := exists_scan text 0
  refine ⟨tags, ?_, hscan.pieces, ?_⟩
  · intro found
    constructor
    · intro hfound
      exact hfound.unique hscan
    · rintro rfl
      exact hscan
  · rintro template rfl
    have hcount : ¬standardRegex.groupCount ≠ 4 := by decide
    cases hcheck : checkSource (bodySource (cut (Units.ofString template) 0 tags)) with
    | function => simp only [compileText, standard_matcher_eq, cutText, if_neg hcount, hscan.pieces, hcheck]
    | syntaxFault message place => simp only [compileText, standard_matcher_eq, cutText, if_neg hcount, hscan.pieces, hcheck]
    | program => simp only [compileText, standard_matcher_eq, cutText, if_neg hcount, hscan.pieces, hcheck]

end ScriptHost.Template
