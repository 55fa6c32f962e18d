import ScriptHost.Regex.Matcher

/-!
# Where matches lie

A matcher tries its ways one after the other, and each way ends in a call of the continuation.  So what
every way keeps to, a success keeps to: it goes forward and not beyond the end of the text, and of the groups
that took no part before, only those of the node may take part.

* `Toward` — a position that is reached in the direction of reading.
* `Adds` — captures in which only some groups may be new.
* `Reaches` — a success comes from the continuation, at such a position and with such captures.
* `Node.run_reaches` — **every success of a node does**.
* `search_bounds` — the bounds of a match that was found.
* `Apart`, `search_apart` — of two groups that no alternative has both of, one takes no part in a match.
* `EndsInLineEnd`, `search_isSome` — an expression whose last alternative is the end of the line is found
  from every position on.
-/

namespace ScriptHost.Regex

open Text

variable {s : Subject} {back : Bool} {pos p q : Nat} {caps c d : Captures} {k : Continuation}
  {r : Nat × Captures} {g : Nat → Prop}

/-! ## Positions -/

/-- A position that is reached from another in the direction of reading, and that is no more outside the
text than the other is. -/
def Toward (s : Subject) (back : Bool) (pos p : Nat) : Prop :=
  if back then p ≤ pos else pos ≤ p ∧ (pos ≤ s.input.size → p ≤ s.input.size)

theorem Toward.refl (s : Subject) (back : Bool) (pos : Nat) : Toward s back pos pos := by
  cases back <;> simp [Toward]

theorem Toward.trans (h : Toward s back pos p) (h' : Toward s back p q) : Toward s back pos q := by
  cases back with
  | true => exact Nat.le_trans (h' : q ≤ p) h
  | false => exact ⟨Nat.le_trans h.1 h'.1, fun hpos => h'.2 (h.2 hpos)⟩

theorem codeAt_le (us : Units) {i : Nat} (h : i < us.size) :
    0 < (us.codeAt i).2 ∧ i + (us.codeAt i).2 ≤ us.size := by
  have hpair : Units.isLow (us.at0 (i + 1)) → i + 1 < us.size := by
    intro hlow
    cases Nat.lt_or_ge (i + 1) us.size with
    | inl hlt => exact hlt
    | inr hend =>
      rw [Units.at0, dif_neg (Nat.not_lt.mpr hend)] at hlow
      cases hlow
  unfold Units.codeAt
  grind

theorem toward_read {d : Nat} (h : s.read back pos = some (d, p)) : Toward s back pos p := by
  cases back with
  | true =>
    simp only [Subject.read, if_true] at h
    change p ≤ pos
    grind
  | false =>
    have hcode (hlt : pos < s.input.size) := codeAt_le s.input hlt
    simp only [Subject.read, Bool.false_eq_true, if_false] at h
    change pos ≤ p ∧ (pos ≤ s.input.size → p ≤ s.input.size)
    grind

theorem toward_single {test : Nat → Bool} (h : s.single? back test pos = some p) : Toward s back pos p := by
  unfold Subject.single? at h
  split at h
  · rename_i d next hread
    have htoward := toward_read hread
    split at h
    · cases h
      exact htoward
    · cases h
  · cases h

theorem toward_repeated {fuel lo hi : Nat} (h : s.repeated? back fuel lo hi pos = some p) :
    Toward s back pos p := by
  induction fuel generalizing lo hi pos with
  | zero =>
    cases h
    exact .refl ..
  | succ fuel ih =>
    unfold Subject.repeated? at h
    split at h
    · cases h
      exact .refl ..
    · split at h
      · rename_i hread
        split at h
        · split at h
          · exact (toward_read hread).trans (ih h)
          · exact (toward_read hread).trans (ih h)
        · cases h
      · cases h

/-! ## Captures -/

/-- Whether a node has a group. -/
def Node.Has (i : Nat) : Node → Prop
  | .group j body => j = i ∨ body.Has i
  | .seq a b | .alt a b => a.Has i ∨ b.Has i
  | .look _ _ body | .rep body _ _ _ _ _ => body.Has i
  | _ => False

/-- Captures of as many groups as others, in which only some groups may be new. -/
structure Adds (g : Nat → Prop) (caps c : Captures) : Prop where
  size : c.size = caps.size
  absent : ∀ i, ¬g i → caps.bounds? i = none → c.bounds? i = none

theorem Adds.refl (g : Nat → Prop) (caps : Captures) : Adds g caps caps := ⟨rfl, fun _ _ h => h⟩

theorem Adds.trans (h : Adds g caps c) (h' : Adds g c d) : Adds g caps d :=
  ⟨h'.size.trans h.size, fun i hi hnone => h'.absent i hi (h.absent i hi hnone)⟩

theorem bounds?_eq_none {i : Nat} :
    caps.bounds? i = none ↔ caps[2 * i]?.join = none ∨ caps[2 * i + 1]?.join = none := by
  unfold Captures.bounds?
  cases caps[2 * i]?.join with
  | none => simp
  | some lo => cases caps[2 * i + 1]?.join <;> simp

theorem adds_forget (g : Nat → Prop) (caps : Captures) (first last : Nat) : Adds g caps (forget caps first last) := by
  unfold forget
  split
  · exact .refl g caps
  · refine ⟨Array.size_mapIdx, fun i _ hnone => ?_⟩
    have hslot {j : Nat} (h : caps[j]?.join = none) :
        (caps.mapIdx fun i c => if 2 * first ≤ i && i < 2 * last then none else c)[j]?.join = none := by
      rw [Array.getElem?_mapIdx]
      cases hj : caps[j]? with
      | none => rfl
      | some c =>
        rw [hj] at h
        obtain rfl : c = none := h
        simp
    exact bounds?_eq_none.mpr ((bounds?_eq_none.mp hnone).imp hslot hslot)

/-- A group that takes part. -/
theorem adds_group {j : Nat} (hj : g j) (c : Captures) (lo hi : Option Nat) :
    Adds g c ((c.setIfInBounds (2 * j) lo).setIfInBounds (2 * j + 1) hi) := by
  refine ⟨by simp, fun i hi hnone => ?_⟩
  have hne : i ≠ j := by
    rintro rfl
    exact hi hj
  rw [bounds?_eq_none] at hnone ⊢
  have hfirst : 2 * j + 1 ≠ 2 * i ∧ 2 * j ≠ 2 * i := by omega
  have hsecond : 2 * j + 1 ≠ 2 * i + 1 ∧ 2 * j ≠ 2 * i + 1 := by omega
  simpa [Array.getElem?_setIfInBounds_ne, hfirst, hsecond] using hnone

/-! ## Successes -/

/-- A success that comes from the continuation, at a position in the direction of reading and with captures
in which only some groups may be new. -/
def Reaches (s : Subject) (back : Bool) (g : Nat → Prop) (pos : Nat) (caps : Captures) (k : Continuation)
    (r : Nat × Captures) : Prop :=
  ∃ p c, k p c = some r ∧ Toward s back pos p ∧ Adds g caps c

theorem Reaches.here (h : k pos caps = some r) : Reaches s back g pos caps k r :=
  ⟨pos, caps, h, .refl .., .refl ..⟩

theorem Reaches.at (htoward : Toward s back pos p) (h : k p caps = some r) : Reaches s back g pos caps k r :=
  ⟨p, caps, h, htoward, .refl ..⟩

theorem Reaches.of_toward (htoward : Toward s back pos p) (hadds : Adds g caps c)
    (h : Reaches s back g p c k r) : Reaches s back g pos caps k r := by
  obtain ⟨q, d, hk, hq, hd⟩ := h
  exact ⟨q, d, hk, htoward.trans hq, hadds.trans hd⟩

theorem toward_takeExactly {next : Nat → Option Nat} (hnext : ∀ p q, next p = some q → Toward s back p q)
    {n : Nat} (h : takeExactly next n pos = some p) : Toward s back pos p := by
  induction n generalizing pos with
  | zero =>
    cases h
    exact .refl ..
  | succ n ih =>
    unfold takeExactly at h
    split at h
    · rename_i q hq
      exact (hnext _ _ hq).trans (ih h)
    · cases h

theorem toward_advances {next : Nat → Option Nat} (hnext : ∀ p q, next p = some q → Toward s back p q)
    {fuel : Nat} {acc : List Nat} (hpos : Toward s back pos p) (hacc : ∀ q ∈ acc, Toward s back pos q) :
    ∀ q ∈ advances next fuel p acc, Toward s back pos q := by
  induction fuel generalizing p acc with
  | zero =>
    intro q hq
    rcases List.mem_cons.mp hq with rfl | hq
    · exact hpos
    · exact hacc q hq
  | succ fuel ih =>
    have hcons : ∀ q ∈ p :: acc, Toward s back pos q := by
      intro q hq
      rcases List.mem_cons.mp hq with rfl | hq
      · exact hpos
      · exact hacc q hq
    unfold advances
    split
    · rename_i q hq
      exact ih (hpos.trans (hnext _ _ hq)) hcons
    · exact hcons

theorem reaches_tryEach {ps : List Nat} (hps : ∀ q ∈ ps, Toward s back pos q)
    (h : tryEach caps k ps = some r) : Reaches s back g pos caps k r := by
  induction ps with
  | nil => cases h
  | cons p rest ih =>
    unfold tryEach at h
    split at h
    · rename_i r' hk
      cases h
      exact .at (hps p List.mem_cons_self) hk
    · exact ih (fun q hq => hps q (List.mem_cons_of_mem _ hq)) h

theorem reaches_untilMatch {next : Nat → Option Nat} (hnext : ∀ p q, next p = some q → Toward s back p q)
    {fuel : Nat} (hpos : Toward s back pos p) (h : untilMatch next caps k fuel p = some r) :
    Reaches s back g pos caps k r := by
  induction fuel generalizing p with
  | zero => exact .at hpos h
  | succ fuel ih =>
    unfold untilMatch at h
    split at h
    · rename_i r' hk
      cases h
      exact .at hpos hk
    · split at h
      · rename_i q hq
        exact ih (hpos.trans (hnext _ _ hq)) h
      · cases h

/-- The rounds of a repetition, if every success of the body comes from its continuation. -/
theorem reaches_rounds {body : Nat → Captures → Continuation → Option (Nat × Captures)}
    (hbody : ∀ p c k r, body p c k = some r → Reaches s back g p c k r) {min : Nat} {max : Option Nat}
    {greedy : Bool} {first last fuel count : Nat}
    (h : rounds body min max greedy first last k fuel count pos caps = some r) :
    Reaches s back g pos caps k r := by
  induction fuel generalizing count pos caps with
  | zero => cases h
  | succ fuel ih =>
    have hagain : body pos (forget caps first last) (fun p c =>
        if count ≥ min && p == pos then none
        else rounds body min max greedy first last k fuel (count + 1) p c) = some r →
        Reaches s back g pos caps k r := by
      intro hround
      obtain ⟨p, c, hk, hp, hc⟩ := hbody _ _ _ _ hround
      have hc := (adds_forget g caps first last).trans hc
      dsimp only at hk
      split at hk
      · cases hk
      · exact .of_toward hp hc (ih hk)
    unfold rounds at h
    dsimp only at h
    split at h
    · exact hagain h
    split at h
    · exact .here h
    split at h
    · split at h
      · rename_i r' hround
        cases h
        exact hagain hround
      · exact .here h
    · split at h
      · rename_i r' hk
        cases h
        exact .here hk
      · exact hagain h

/-- **Every success of a node comes from its continuation.** -/
theorem Node.run_reaches (node : Node) (hg : ∀ i, node.Has i → g i) (h : node.run s back pos caps k = some r) :
    Reaches s back g pos caps k r := by
  induction node generalizing back pos caps k r with
  | empty => exact .here h
  | char d =>
    unfold Node.run at h
    split at h
    · exact .at (toward_single ‹_›) h
    · cases h
  | set cs =>
    unfold Node.run at h
    split at h
    · exact .at (toward_single ‹_›) h
    · cases h
  | any =>
    unfold Node.run at h
    split at h
    · exact .at (toward_single ‹_›) h
    · cases h
  | dot =>
    unfold Node.run at h
    split at h
    · exact .at (toward_single ‹_›) h
    · cases h
  | lineStart =>
    unfold Node.run at h
    split at h
    · exact .here h
    · cases h
  | lineEnd =>
    unfold Node.run at h
    split at h
    · exact .here h
    · cases h
  | wordBoundary negated =>
    unfold Node.run at h
    split at h
    · exact .here h
    · cases h
  | seq a b iha ihb =>
    have hga : ∀ i, a.Has i → g i := fun i h => hg i (.inl h)
    have hgb : ∀ i, b.Has i → g i := fun i h => hg i (.inr h)
    unfold Node.run at h
    split at h
    · obtain ⟨p, c, hk, hp, hc⟩ := ihb hgb h
      exact .of_toward hp hc (iha hga hk)
    · obtain ⟨p, c, hk, hp, hc⟩ := iha hga h
      exact .of_toward hp hc (ihb hgb hk)
  | alt a b iha ihb =>
    unfold Node.run at h
    split at h
    · rename_i r' hrun
      cases h
      exact iha (fun i h => hg i (.inl h)) hrun
    · exact ihb (fun i h => hg i (.inr h)) h
  | group j body ih =>
    unfold Node.run at h
    obtain ⟨p, c, hk, hp, hc⟩ := ih (fun i h => hg i (.inr h)) h
    exact ⟨p, _, hk, hp, hc.trans (adds_group (hg j (.inl rfl)) c _ _)⟩
  | backReference i =>
    unfold Node.run at h
    split at h
    · split at h
      · exact .at (toward_repeated ‹_›) h
      · cases h
    · exact .here h
  | look behind negated body ih =>
    unfold Node.run at h
    split at h
    · rename_i p c hrun
      split at h
      · cases h
      · obtain ⟨_, _, hk, -, hc⟩ := ih hg hrun
        cases hk
        exact ⟨pos, c, h, .refl .., hc⟩
    · split at h
      · exact .here h
      · cases h
  | rep body min max greedy first last ih =>
    have hnext (test : Nat → Bool) (p q : Nat) : s.single? back test p = some q → Toward s back p q :=
      toward_single
    unfold Node.run at h
    split at h
    · rename_i test htest
      dsimp only at h
      split at h
      · cases h
      · rename_i p hp
        have htaken := toward_takeExactly (hnext test) hp
        split at h
        · exact reaches_tryEach (toward_advances (hnext test) htaken (List.forall_mem_nil _)) h
        · exact reaches_untilMatch (hnext test) htaken h
    · exact reaches_rounds (fun p c k r => ih hg) h

/-! ## Matches -/

/-- The bounds of a match at a position. -/
theorem matchAt_bounds {x : Regex} {input : Units} (hx : 0 < x.groupCount) (hpos : pos ≤ input.size)
    (h : matchAt x input pos = some c) :
    ∃ stop, c.bounds? 0 = some (pos, stop) ∧ pos ≤ stop ∧ stop ≤ input.size := by
  unfold matchAt at h
  dsimp only at h
  split at h
  · rename_i p d hrun
    cases h
    obtain ⟨p', d', hk, hp, hd⟩ := x.root.run_reaches (g := fun _ => True) (fun _ _ => trivial) hrun
    cases hk
    have hd := hd.size
    rw [Array.size_replicate] at hd
    refine ⟨p, ?_, hp.1, hp.2 hpos⟩
    have hslot : 1 < 2 * x.groupCount := by omega
    simp [Captures.bounds?, hd, hx, hslot]
  · cases h

theorem search_bounds_go {x : Regex} {input : Units} (hx : 0 < x.groupCount) (hflags : x.flags.unicode = false)
    {fuel : Nat} (hfuel : fuel + pos = input.size + 1) (h : search.go x input fuel pos = some c) :
    ∃ start stop, c.bounds? 0 = some (start, stop) ∧ pos ≤ start ∧ start ≤ stop ∧ stop ≤ input.size := by
  induction fuel generalizing pos with
  | zero => cases h
  | succ fuel ih =>
    unfold search.go at h
    split at h
    · rename_i c' hmatch
      cases h
      obtain ⟨stop, hbounds, hle, hsize⟩ := matchAt_bounds hx (by omega) hmatch
      exact ⟨pos, stop, hbounds, Nat.le_refl _, hle, hsize⟩
    · split at h
      · cases h
      · rw [hflags] at h
        obtain ⟨start, stop, hbounds, hle, hrest⟩ := ih (by simp; omega) h
        exact ⟨start, stop, hbounds, by simp at hle; omega, hrest⟩

/-- The bounds of a match that was found from a position on. -/
theorem search_bounds {x : Regex} {input : Units} (hx : 0 < x.groupCount) (hflags : x.flags.unicode = false)
    (hpos : pos ≤ input.size) (h : search x input pos = some c) :
    ∃ start stop, c.bounds? 0 = some (start, stop) ∧ pos ≤ start ∧ start ≤ stop ∧ stop ≤ input.size :=
  search_bounds_go hx hflags (by omega) h

/-! ## Alternatives -/

/-- A node of which no alternative has both of two groups. -/
inductive Apart (i j : Nat) : Node → Prop where
  | without {node : Node} (h : ¬node.Has i ∨ ¬node.Has j) : Apart i j node
  | alt {a b : Node} : Apart i j a → Apart i j b → Apart i j (.alt a b)

/-- A success adds one of the two groups at most. -/
theorem Apart.run_reaches {i j : Nat} {node : Node} (h : Apart i j node) (hrun : node.run s back pos caps k = some r) :
    Reaches s back (· ≠ i) pos caps k r ∨ Reaches s back (· ≠ j) pos caps k r := by
  induction h with
  | without h =>
    refine h.imp (fun h => Node.run_reaches _ ?_ hrun) (fun h => Node.run_reaches _ ?_ hrun)
    · rintro l hl rfl
      exact h hl
    · rintro l hl rfl
      exact h hl
  | alt _ _ iha ihb =>
    unfold Node.run at hrun
    split at hrun
    · rename_i r' hfirst
      cases hrun
      exact iha hfirst
    · exact ihb hrun

theorem matchAt_apart {x : Regex} {input : Units} {i j : Nat} (h : Apart i j x.root) (hi : i ≠ 0) (hj : j ≠ 0)
    (hmatch : matchAt x input pos = some c) : c.bounds? i = none ∨ c.bounds? j = none := by
  unfold matchAt at hmatch
  dsimp only at hmatch
  split at hmatch
  · rename_i p d hrun
    cases hmatch
    have hfirst (l : Nat) : Captures.bounds? (Array.replicate (2 * x.groupCount) none) l = none := by
      rw [bounds?_eq_none, Array.getElem?_replicate]
      split <;> simp
    have hwhole : Adds (· = 0) d ((d.setIfInBounds 0 (some pos)).setIfInBounds 1 (some p)) :=
      adds_group (g := (· = 0)) (j := 0) rfl d (some pos) (some p)
    have hnone {l : Nat} (hl : l ≠ 0) (hreaches : Reaches ⟨input, x.flags⟩ false (· ≠ l) pos
        (Array.replicate (2 * x.groupCount) none) (fun p c => some (p, c)) (p, d)) :
        Captures.bounds? ((d.setIfInBounds 0 (some pos)).setIfInBounds 1 (some p)) l = none := by
      obtain ⟨p', d', hk, -, hd⟩ := hreaches
      cases hk
      exact hwhole.absent l hl (hd.absent l (fun hne => hne rfl) (hfirst l))
    exact (h.run_reaches hrun).imp (hnone hi) (hnone hj)
  · cases hmatch

/-- Of two groups that no alternative has both of, one takes no part in a match. -/
theorem search_apart {x : Regex} {input : Units} {i j : Nat} (h : Apart i j x.root) (hi : i ≠ 0) (hj : j ≠ 0)
    (hsearch : search x input pos = some c) : c.bounds? i = none ∨ c.bounds? j = none := by
  unfold search at hsearch
  generalize input.size + 1 - pos = fuel at hsearch
  induction fuel generalizing pos with
  | zero => cases hsearch
  | succ fuel ih =>
    unfold search.go at hsearch
    split at hsearch
    · rename_i c' hmatch
      cases hsearch
      exact matchAt_apart h hi hj hmatch
    · split at hsearch
      · cases hsearch
      · exact ih hsearch

/-! ## The end of the line -/

/-- An expression whose last alternative is the end of the line. -/
inductive EndsInLineEnd : Node → Prop where
  | lineEnd : EndsInLineEnd .lineEnd
  | alt (a : Node) {b : Node} : EndsInLineEnd b → EndsInLineEnd (.alt a b)

/-- Such an expression matches at the end of the text. -/
theorem EndsInLineEnd.run_isSome {node : Node} (h : EndsInLineEnd node) (s : Subject) (caps : Captures) :
    (node.run s false s.input.size caps fun p c => some (p, c)).isSome := by
  induction h with
  | lineEnd => simp [Node.run]
  | alt a hb ih =>
    unfold Node.run
    split
    · rfl
    · exact ih

theorem EndsInLineEnd.matchAt_isSome {x : Regex} (h : EndsInLineEnd x.root) (input : Units) :
    (matchAt x input input.size).isSome := by
  obtain ⟨⟨p, c⟩, hrun⟩ := Option.isSome_iff_exists.mp
    (h.run_isSome ⟨input, x.flags⟩ (Array.replicate (2 * x.groupCount) none))
  simp only [matchAt, hrun, Option.isSome_some]

/-- So it is found from every position on. -/
theorem EndsInLineEnd.search_isSome {x : Regex} (h : EndsInLineEnd x.root) (hsticky : x.flags.sticky = false)
    (hflags : x.flags.unicode = false) {input : Units} (hpos : pos ≤ input.size) :
    (search x input pos).isSome := by
  have hgo (fuel : Nat) : ∀ pos, fuel + pos = input.size → (search.go x input (fuel + 1) pos).isSome := by
    induction fuel with
    | zero =>
      intro pos hpos
      obtain ⟨c, hmatch⟩ := Option.isSome_iff_exists.mp (h.matchAt_isSome input)
      rw [Nat.zero_add] at hpos
      simp only [search.go, hpos, hmatch, Option.isSome_some]
    | succ fuel ih =>
      intro pos hpos
      unfold search.go
      split
      · rfl
      · rw [hsticky, hflags]
        exact ih (pos + 1) (by omega)
  have hfuel : input.size + 1 - pos = (input.size - pos) + 1 := by omega
  rw [search, hfuel]
  exact hgo _ pos (by omega)

end ScriptHost.Regex
