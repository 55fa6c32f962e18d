import Mathlib.Data.List.Induction
import ScriptHost.Engine.Audited

/-!
# Ledgers in order

The ledger of a host tells the lives of engines and of dispatches.  It is in order when every entry
may follow what stands before it: only what was made is called, nothing is called after it was
closed, and nothing is closed or released twice.

* `LedgerEntry.MayFollow`, `Orderly` — what may come next, and ledgers in which all of it does.
* `Orderly.count_made`, `Orderly.countP_hands` — numbers are given out once, in increasing order.
* `Visited` — what a call of an open session may add: calls, and dispatches that are given up again.
* `Balanced` — a ledger in order beside the owners of what it tells of, with one lemma for each way in
  which both change.
-/

namespace ScriptHost

namespace LedgerEntry

/-- Whether an entry may come next in a ledger. -/
def MayFollow (l : List LedgerEntry) : LedgerEntry → Prop
  | .made i => i = nextEngine l
  | .called i => .made i ∈ l ∧ .closed i ∉ l
  | .closed i => .made i ∈ l ∧ .closed i ∉ l
  | .handedOut i d => (.made i ∈ l ∧ .closed i ∉ l) ∧ d = nextDispatch l
  | .used i d => .handedOut i d ∈ l ∧ .closed i ∉ l ∧ .released d ∉ l
  | .released d => (∃ i, .handedOut i d ∈ l) ∧ .released d ∉ l

/-- Whether an entry hands out a dispatch. -/
def hands (d : Nat) : LedgerEntry → Bool
  | .handedOut _ d' => d' == d
  | _ => false

end LedgerEntry

open LedgerEntry

/-- Every entry may follow those before it. -/
def Orderly (l : List LedgerEntry) : Prop :=
  ∀ before e after, l = before ++ e :: after → e.MayFollow before

/-- An engine that was made and not closed. -/
def Live (l : List LedgerEntry) (i : Nat) : Prop := .made i ∈ l ∧ .closed i ∉ l

/-- A dispatch that was handed out and not released. -/
def Unreleased (l : List LedgerEntry) (d : Nat) : Prop := (∃ i, .handedOut i d ∈ l) ∧ .released d ∉ l

/-! ## Entry by entry -/

variable {l l' : List LedgerEntry} {i j d : Nat}

theorem orderly_nil : Orderly [] := by
  intro before e after h
  simp at h

theorem orderly_concat {e : LedgerEntry} :
    Orderly (l ++ [e]) ↔ Orderly l ∧ e.MayFollow l := by
  constructor
  · intro h
    refine ⟨?_, h l e [] rfl⟩
    rintro before e' after rfl
    exact h before e' (after ++ [e]) (by simp)
  · rintro ⟨h, he⟩ before e' after hl
    rcases List.eq_nil_or_concat after with rfl | ⟨after, x, rfl⟩
    · obtain ⟨rfl, rfl⟩ : l = before ∧ e = e' := by simpa using List.append_inj' hl rfl
      exact he
    · rw [List.concat_eq_append, ← List.cons_append, ← List.append_assoc] at hl
      exact h before e' after (List.append_inj' hl rfl).1

theorem nextEngine_concat (l : List LedgerEntry) (e : LedgerEntry) :
    nextEngine (l ++ [e]) = nextEngine l + match e with
      | .made _ => 1
      | _ => 0 := by
  cases e <;> simp [nextEngine]

theorem nextDispatch_concat (l : List LedgerEntry) (e : LedgerEntry) :
    nextDispatch (l ++ [e]) = nextDispatch l + match e with
      | .handedOut _ _ => 1
      | _ => 0 := by
  cases e <;> simp [nextDispatch]

namespace Orderly

/-- Engines are numbered as they are made. -/
theorem count_made (h : Orderly l) (i : Nat) :
    l.count (.made i) = if i < nextEngine l then 1 else 0 := by
  induction l using List.reverseRecOn with
  | nil => rfl
  | append_singleton l e ih =>
      obtain ⟨h, he⟩ := orderly_concat.1 h
      rw [List.count_append, ih h, nextEngine_concat]
      cases e with
      | made j =>
          obtain rfl : j = nextEngine l := he
          simp only [List.count_singleton, beq_iff_eq, made.injEq]
          grind
      | _ => simp

/-- Dispatches are numbered as they are handed out. -/
theorem countP_hands (h : Orderly l) (d : Nat) :
    l.countP (hands d) = if d < nextDispatch l then 1 else 0 := by
  induction l using List.reverseRecOn with
  | nil => rfl
  | append_singleton l e ih =>
      obtain ⟨h, he⟩ := orderly_concat.1 h
      rw [List.countP_append, ih h, nextDispatch_concat]
      cases e with
      | handedOut j d' =>
          obtain ⟨-, rfl⟩ : Live l j ∧ d' = nextDispatch l := he
          simp only [List.countP_singleton, hands, beq_iff_eq]
          grind
      | _ => simp [hands]

theorem count_made_le (h : Orderly l) (i : Nat) : l.count (.made i) ≤ 1 := by
  rw [h.count_made]
  split <;> omega

theorem countP_hands_le (h : Orderly l) (d : Nat) : l.countP (hands d) ≤ 1 := by
  rw [h.countP_hands]
  split <;> omega

end Orderly

theorem countP_hands_pos : 0 < l.countP (hands d) ↔ ∃ i, .handedOut i d ∈ l := by
  rw [List.countP_pos_iff]
  constructor
  · rintro ⟨e, he, hd⟩
    cases e with
    | handedOut i d' =>
        obtain rfl : d' = d := by simpa [hands] using hd
        exact ⟨i, he⟩
    | _ => simp [hands] at hd
  · rintro ⟨i, hi⟩
    exact ⟨_, hi, by simp [hands]⟩

namespace Orderly

/-- What was released had been handed out. -/
theorem handedOut_of_released (h : Orderly l) (hd : .released d ∈ l) :
    ∃ i, .handedOut i d ∈ l := by
  obtain ⟨before, after, rfl⟩ := List.append_of_mem hd
  obtain ⟨⟨i, hi⟩, -⟩ := h before _ after rfl
  exact ⟨i, by simp [hi]⟩

/-- The next dispatch was not handed out. -/
theorem handedOut_next_notMem (h : Orderly l) : .handedOut i (nextDispatch l) ∉ l := by
  intro hi
  have hpos := countP_hands_pos.2 ⟨i, hi⟩
  rw [h.countP_hands] at hpos
  simp at hpos

theorem released_next_notMem (h : Orderly l) : .released (nextDispatch l) ∉ l := by
  intro hd
  obtain ⟨i, hi⟩ := h.handedOut_of_released hd
  exact h.handedOut_next_notMem hi

end Orderly

/-! ## Visits -/

/-- What is added to a ledger while an engine, if there is one, stays open and no dispatch stays. -/
inductive Visited (owner : Option Nat) (l : List LedgerEntry) : List LedgerEntry → Prop
  | rest : Visited owner l l
  | call {i : Nat} {l' : List LedgerEntry} : owner = some i → Visited owner l l' →
      Visited owner l (l' ++ [.called i])
  /-- A dispatch that is held by someone else is used. -/
  | use {i d : Nat} {l' : List LedgerEntry} : owner = some i → .handedOut i d ∈ l' →
      .released d ∉ l' → Visited owner l l' → Visited owner l (l' ++ [.used i d])
  /-- A dispatch is handed out, used and given up. -/
  | borrow {i : Nat} {l' : List LedgerEntry} : owner = some i → Visited owner l l' →
      Visited owner l (l' ++ [.handedOut i (nextDispatch l')] ++ [.used i (nextDispatch l')]
        ++ [.released (nextDispatch l')])

namespace Visited

variable {owner : Option Nat} {l'' : List LedgerEntry}

theorem trans (h : Visited owner l l') (h' : Visited owner l' l'') : Visited owner l l'' := by
  induction h' with
  | rest => exact h
  | call ho _ ih => exact .call ho ih
  | use ho hd hr _ ih => exact .use ho hd hr ih
  | borrow ho _ ih => exact .borrow ho ih

theorem isPrefix (h : Visited owner l l') : l <+: l' := by
  induction h with
  | rest => exact List.prefix_rfl
  | call _ _ ih => exact ih.trans (List.prefix_append _ _)
  | use _ _ _ _ ih => exact ih.trans (List.prefix_append _ _)
  | borrow _ _ ih =>
      simp only [List.append_assoc]
      exact ih.trans (List.prefix_append _ _)

theorem count_made (h : Visited owner l l') (i : Nat) :
    l'.count (.made i) = l.count (.made i) := by
  induction h <;> simp [*]

theorem count_closed (h : Visited owner l l') (i : Nat) :
    l'.count (.closed i) = l.count (.closed i) := by
  induction h <;> simp [*]

/-- As many dispatches were handed out as were given up. -/
theorem balance (h : Visited owner l l') (d : Nat) :
    l'.countP (hands d) + l.count (.released d) = l.countP (hands d) + l'.count (.released d) := by
  induction h with
  | rest => rfl
  | call _ _ ih => simpa [hands] using ih
  | use _ _ _ _ ih => simpa [hands] using ih
  | borrow _ _ ih =>
      simp only [List.countP_append, List.count_append, List.countP_singleton,
        List.count_singleton, hands, beq_iff_eq, released.injEq]
      simp only [reduceCtorEq, if_false, Bool.false_eq_true]
      omega

theorem live (h : Visited owner l l') (hi : Live l i) : Live l' i := by
  have hmade : 0 < l.count (.made i) := List.count_pos_iff.2 hi.1
  have hclosed : l.count (.closed i) = 0 := List.count_eq_zero.2 hi.2
  refine ⟨List.count_pos_iff.1 ?_, List.count_eq_zero.1 ?_⟩
  · rwa [h.count_made]
  · rwa [h.count_closed]

theorem orderly (h : Visited owner l l') (hl : Orderly l) (hi : ∀ i, owner = some i → Live l i) :
    Orderly l' := by
  induction h with
  | rest => exact hl
  | call ho h ih => exact orderly_concat.2 ⟨ih, h.live (hi _ ho)⟩
  | use ho hd hr h ih => exact orderly_concat.2 ⟨ih, hd, (h.live (hi _ ho)).2, hr⟩
  | @borrow i l' ho h ih =>
      have hlive := h.live (hi i ho)
      have hfresh := ih.released_next_notMem
      simp only [orderly_concat]
      refine ⟨⟨⟨ih, hlive, rfl⟩, ?_⟩, ?_⟩
      · exact ⟨by simp, by simpa using hlive.2, by simpa using hfresh⟩
      · exact ⟨⟨i, by simp⟩, by simpa using hfresh⟩

end Visited

/-! ## Ledgers and owners -/

/-- A ledger in order, and those who hold what it tells of: an engine that was made is either closed
or held by one owner, and a dispatch that was handed out is either released or held by one. -/
structure Balanced (l : List LedgerEntry) (engines dispatches : List (Option Nat)) : Prop where
  orderly : Orderly l
  engines (i : Nat) : l.count (.made i) = l.count (.closed i) + engines.count (some i)
  dispatches (d : Nat) : l.countP (hands d) = l.count (.released d) + dispatches.count (some d)

theorem count_set_none {α : Type} [DecidableEq α] {xs : List (Option α)} {k : Nat} {a : α}
    (h : xs[k]? = some (some a)) (b : α) :
    xs.count (some b) = (xs.set k none).count (some b) + if a = b then 1 else 0 := by
  obtain ⟨hk, ha⟩ := List.getElem?_eq_some_iff.1 h
  have hsplit : xs = xs.take k ++ some a :: xs.drop (k + 1) := by
    rw [← ha, List.getElem_cons_drop hk, List.take_append_drop]
  rw [List.set_eq_take_append_cons_drop, if_pos hk]
  conv_lhs => rw [hsplit]
  simp only [List.count_append, List.count_cons, beq_iff_eq, Option.some.injEq, reduceCtorEq,
    if_false]
  omega

namespace Balanced

variable {engines dispatches : List (Option Nat)} {k : Nat}

theorem nil : Balanced [] [] [] := ⟨orderly_nil, fun _ => rfl, fun _ => rfl⟩

/-- An engine that is held is live. -/
theorem live (h : Balanced l engines dispatches) (hi : some i ∈ engines) : Live l i := by
  have hheld : 0 < engines.count (some i) := List.count_pos_iff.2 hi
  have hmade := h.engines i
  have hle := h.orderly.count_made_le i
  exact ⟨List.count_pos_iff.1 (by omega), List.count_eq_zero.1 (by omega)⟩

/-- What is live is held. -/
theorem live_iff (h : Balanced l engines dispatches) : Live l i ↔ some i ∈ engines := by
  refine ⟨fun hi => ?_, h.live⟩
  have hmade : 0 < l.count (.made i) := List.count_pos_iff.2 hi.1
  have hclosed : l.count (.closed i) = 0 := List.count_eq_zero.2 hi.2
  have hcount := h.engines i
  exact List.count_pos_iff.1 (by omega)

/-- What is not released is held. -/
theorem unreleased_iff (h : Balanced l engines dispatches) : Unreleased l d ↔ some d ∈ dispatches := by
  have hcount := h.dispatches d
  have hle := h.orderly.countP_hands_le d
  rw [Unreleased, ← countP_hands_pos, ← List.count_eq_zero, ← List.count_pos_iff]
  omega

/-- A dispatch that is held is not released. -/
theorem released_notMem (h : Balanced l engines dispatches) (hd : some d ∈ dispatches) :
    .released d ∉ l := by
  have hheld : 0 < dispatches.count (some d) := List.count_pos_iff.2 hd
  have hhanded := h.dispatches d
  have hle := h.orderly.countP_hands_le d
  exact List.count_eq_zero.1 (by omega)

theorem visited {owner : Option Nat} (h : Balanced l engines dispatches)
    (ho : ∀ i, owner = some i → some i ∈ engines) (hv : Visited owner l l') :
    Balanced l' engines dispatches where
  orderly := hv.orderly h.orderly fun i hi => h.live (ho i hi)
  engines i := by rw [hv.count_made, hv.count_closed, h.engines]
  dispatches d := by
    have hbalance := hv.balance d
    have hd := h.dispatches d
    omega

theorem made (h : Balanced l engines dispatches) :
    Balanced (l ++ [.made (nextEngine l)]) (engines ++ [some (nextEngine l)]) dispatches where
  orderly := orderly_concat.2 ⟨h.orderly, rfl⟩
  engines i := by
    have hi := h.engines i
    simp only [List.count_append, List.count_singleton, beq_iff_eq, LedgerEntry.made.injEq,
      Option.some.injEq, reduceCtorEq, if_false]
    omega
  dispatches d := by simpa [hands] using h.dispatches d

theorem closed (h : Balanced l engines dispatches) (hk : engines[k]? = some (some i)) :
    Balanced (l ++ [.closed i]) (engines.set k none) dispatches where
  orderly := orderly_concat.2 ⟨h.orderly, h.live (List.mem_of_getElem? hk)⟩
  engines j := by
    have hj := h.engines j
    rw [count_set_none hk j] at hj
    simp only [List.count_append, List.count_singleton, beq_iff_eq, LedgerEntry.closed.injEq,
      reduceCtorEq, if_false]
    omega
  dispatches d := by simpa [hands] using h.dispatches d

theorem handedOut (h : Balanced l engines dispatches) (hi : some i ∈ engines) :
    Balanced (l ++ [.handedOut i (nextDispatch l)]) engines
      (dispatches ++ [some (nextDispatch l)]) where
  orderly := orderly_concat.2 ⟨h.orderly, h.live hi, rfl⟩
  engines j := by simpa using h.engines j
  dispatches d := by
    have hd := h.dispatches d
    simp only [List.count_append, List.count_singleton, List.countP_append, List.countP_singleton,
      hands, beq_iff_eq, Option.some.injEq, reduceCtorEq, if_false]
    omega

theorem released (h : Balanced l engines dispatches) (hk : dispatches[k]? = some (some d)) :
    Balanced (l ++ [.released d]) engines (dispatches.set k none) where
  orderly := by
    have hmem := List.mem_of_getElem? hk
    have hheld : 0 < dispatches.count (some d) := List.count_pos_iff.2 hmem
    have hd := h.dispatches d
    exact orderly_concat.2
      ⟨h.orderly, countP_hands_pos.1 (by omega), h.released_notMem hmem⟩
  engines i := by simpa using h.engines i
  dispatches d' := by
    have hd := h.dispatches d'
    rw [count_set_none hk d'] at hd
    simp only [List.count_append, List.count_singleton, List.countP_append, List.countP_singleton,
      hands, beq_iff_eq, LedgerEntry.released.injEq, Bool.false_eq_true, if_false]
    omega

/-- An engine is made, visited and closed. -/
theorem visitor {l'' : List LedgerEntry} (h : Balanced l engines dispatches)
    (hv : Visited (some (nextEngine l)) (l ++ [.made (nextEngine l)]) l'') :
    Balanced (l'' ++ [.closed (nextEngine l)]) engines dispatches := by
  have hvisited := h.made.visited (by simp) hv
  have hclosed := hvisited.closed (k := engines.length) (i := nextEngine l) (by simp)
  refine ⟨hclosed.orderly, fun i => ?_, hclosed.dispatches⟩
  rw [hclosed.engines]
  simp

/-- An engine that was made is closed or held, and that once. -/
theorem engine_settled (h : Balanced l engines dispatches) (hi : .made i ∈ l) :
    l.count (.closed i) + engines.count (some i) = 1 := by
  have hpos : 0 < l.count (.made i) := List.count_pos_iff.2 hi
  have hle := h.orderly.count_made_le i
  have hmade := h.engines i
  omega

/-- A dispatch that was handed out is released or held, and that once. -/
theorem dispatch_settled (h : Balanced l engines dispatches) (hd : .handedOut i d ∈ l) :
    l.count (.released d) + dispatches.count (some d) = 1 := by
  have hpos := countP_hands_pos.2 ⟨i, hd⟩
  have hle := h.orderly.countP_hands_le d
  have hhanded := h.dispatches d
  omega

variable {new : List LedgerEntry} {engines' dispatches' : List (Option Nat)} {P : Prop}

/-- When an engine is closed: `P` says that its owner let go of it. -/
theorem closed_mem_iff (h : Balanced l engines dispatches)
    (h' : Balanced (l ++ new) engines' dispatches')
    (hgone : P → engines.count (some i) = engines'.count (some i) + 1)
    (hkept : ¬P → engines.count (some i) ≤ engines'.count (some i)) :
    .closed i ∈ new ↔ P ∨ .made i ∈ new ∧ some i ∉ engines' := by
  have hbefore := h.engines i
  have hafter := h'.engines i
  have hle := h'.orderly.count_made_le i
  rw [List.count_append] at hle
  rw [List.count_append, List.count_append] at hafter
  rw [← List.count_pos_iff, ← List.count_pos_iff, ← List.count_eq_zero]
  by_cases hp : P
  · have hcount := hgone hp
    simp only [hp, true_or, iff_true]
    omega
  · have hcount := hkept hp
    simp only [hp, false_or]
    omega

/-- When a dispatch is released: `P` says that its owner let go of it. -/
theorem released_mem_iff (h : Balanced l engines dispatches)
    (h' : Balanced (l ++ new) engines' dispatches')
    (hgone : P → dispatches.count (some d) = dispatches'.count (some d) + 1)
    (hkept : ¬P → dispatches.count (some d) ≤ dispatches'.count (some d)) :
    .released d ∈ new ↔ P ∨ (∃ i, .handedOut i d ∈ new) ∧ some d ∉ dispatches' := by
  have hbefore := h.dispatches d
  have hafter := h'.dispatches d
  have hle := h'.orderly.countP_hands_le d
  rw [List.countP_append] at hafter hle
  rw [List.count_append] at hafter
  rw [← List.count_pos_iff, ← countP_hands_pos, ← List.count_eq_zero]
  by_cases hp : P
  · have hcount := hgone hp
    simp only [hp, true_or, iff_true]
    omega
  · have hcount := hkept hp
    simp only [hp, false_or]
    omega

end Balanced

end ScriptHost
