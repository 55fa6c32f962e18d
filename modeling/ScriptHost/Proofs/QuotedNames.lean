import ScriptHost.Bundle
import ScriptHost.Proofs.StringLiterals

/-!
# Names in double quotes

A bundle writes the names of its templates as string literals.  Such a literal is read here to its closing
quote and no further, so that it can be read where other text follows.  Between the quotes every unit stands
for itself, but the quote, the backslash and the two line ends; line and paragraph separators may stand there
as they are.

* `readQuoted?` — the value of a literal, and what is behind its closing quote.
* `readQuoted?_quote` — **a quoted name is read as that name**, whatever follows it.
* `newline_notMem_quote` — a quoted name stays on its line.
-/

namespace ScriptHost

open Template (escapeValue?)
open Text (Units)

/-! ## The grammar -/

/-- The value of a string literal whose opening quote was passed, and the units behind its closing quote.  The
units that the last escape takes are skipped. -/
def readQuoted? : Nat → List UInt16 → Option (List UInt16 × List UInt16)
  | _, [] => none
  | skip + 1, _ :: us => readQuoted? skip us
  | 0, u :: us =>
    if u = 0x22 then some ([], us)
    else if u = 0x0A ∨ u = 0x0D then none
    else if u = 0x5C then match escapeValue? us with
      | none => none
      | some (v, n) => (readQuoted? n us).map fun (value, rest) => (v ++ value, rest)
    else (readQuoted? 0 us).map fun (value, rest) => (u :: value, rest)

/-- The value of a text between double quotes, unless the quotes would end before the text does. -/
def quotedValue? (text : String) : Option (List UInt16) :=
  match readQuoted? 0 (Units.ofChars text.toList ++ [0x22]) with
  | some (value, []) => some value
  | _ => none

/-! ## Single units -/

/-- The units that stand for themselves. -/
def IsBare (u : UInt16) : Prop := u ≠ 0x22 ∧ u ≠ 0x0A ∧ u ≠ 0x0D ∧ u ≠ 0x5C

theorem readQuoted?_bare {u : UInt16} (h : IsBare u) (rest : List UInt16) :
    readQuoted? 0 (u :: rest) = (readQuoted? 0 rest).map fun (value, rest) => (u :: value, rest) := by
  obtain ⟨hquote, hfeed, hreturn, hslash⟩ := h
  simp [readQuoted?, hquote, hfeed, hreturn, hslash]

theorem readQuoted?_escape {e v : UInt16} (h : Template.StandsFor e v) (rest : List UInt16) :
    readQuoted? 0 (0x5C :: e :: rest) = (readQuoted? 0 rest).map fun (value, rest) => (v :: value, rest) := by
  have hvalue : escapeValue? (e :: rest) = some ([v], 1) := Template.escapeValue?_single h rest
  simp [readQuoted?, hvalue]

/-- Characters that need no escape are written in units that stand for themselves. -/
theorem isBare_of_mem {c : Char} (h : c ≠ '"' ∧ c ≠ '\n' ∧ c ≠ '\r' ∧ c ≠ '\\') :
    ∀ u ∈ Units.ofChar c, IsBare u := by
  intro u hu
  have hcode (n : Nat) (hn : n < 0x80) (hc : c ≠ Char.ofNat n) : c.toNat ≠ n := by
    intro heq
    apply hc
    rw [← heq, Char.ofNat_toNat]
  have hquote := hcode 0x22 (by decide) h.1
  have hfeed := hcode 0x0A (by decide) h.2.1
  have hreturn := hcode 0x0D (by decide) h.2.2.1
  have hslash := hcode 0x5C (by decide) h.2.2.2
  have hrange := Units.toNat_lt_or_gt c
  have hbare {n : Nat} (hn : n < 0x10000) (hne : n ≠ 0x22 ∧ n ≠ 0x0A ∧ n ≠ 0x0D ∧ n ≠ 0x5C) :
      IsBare n.toUInt16 := by
    simp only [IsBare, ne_eq, ← UInt16.toNat_inj, Units.toNat_toUInt16 hn]
    exact hne
  unfold Units.ofChar at hu
  by_cases hsmall : c.toNat < 0x10000
  · rw [if_pos hsmall, List.mem_singleton] at hu
    rw [hu]
    exact hbare hsmall ⟨hquote, hfeed, hreturn, hslash⟩
  · rw [if_neg hsmall, List.mem_cons, List.mem_singleton] at hu
    obtain rfl | rfl := hu
    · exact hbare (by omega) (by omega)
    · exact hbare (by omega) (by omega)

theorem readQuoted?_bares {us : List UInt16} (h : ∀ u ∈ us, IsBare u) (rest : List UInt16) :
    readQuoted? 0 (us ++ rest) = (readQuoted? 0 rest).map fun (value, rest) => (us ++ value, rest) := by
  induction us with
  | nil => simp
  | cons u us ih =>
    obtain ⟨hu, hus⟩ := List.forall_mem_cons.1 h
    rw [List.cons_append, readQuoted?_bare hu, ih hus, Option.map_map]
    rfl

/-! ## Quoted names -/

/-- The ways to write a character: a backslash and one more character, or as it is. -/
theorem quoteChar_cases (c : Char) :
    (∃ e u v, quoteChar c = ['\\', e] ∧ e ≠ '\n' ∧ Units.ofChar e = [u] ∧ Units.ofChar c = [v]
        ∧ Template.StandsFor u v)
    ∨ quoteChar c = [c] ∧ c ≠ '"' ∧ c ≠ '\n' ∧ c ≠ '\r' ∧ c ≠ '\\' := by
  by_cases hquote : c = '"'
  · subst hquote
    exact .inl ⟨'"', 0x22, 0x22, rfl, by decide, rfl, rfl, by decide, by decide, by decide, by decide⟩
  by_cases hslash : c = '\\'
  · subst hslash
    exact .inl ⟨'\\', 0x5C, 0x5C, rfl, by decide, rfl, rfl, by decide, by decide, by decide, by decide⟩
  by_cases hfeed : c = '\n'
  · subst hfeed
    exact .inl ⟨'n', 0x6E, 0x0A, rfl, by decide, rfl, rfl, by decide, by decide, by decide, by decide⟩
  by_cases hreturn : c = '\r'
  · subst hreturn
    exact .inl ⟨'r', 0x72, 0x0D, rfl, by decide, rfl, rfl, by decide, by decide, by decide, by decide⟩
  refine .inr ⟨?_, hquote, hfeed, hreturn, hslash⟩
  unfold quoteChar
  split <;> simp_all

/-- One quoted character is read as that character. -/
theorem readQuoted?_quoteChar (c : Char) (rest : List UInt16) :
    readQuoted? 0 (Units.ofChars (quoteChar c) ++ rest)
      = (readQuoted? 0 rest).map fun (value, rest) => (Units.ofChar c ++ value, rest) := by
  obtain ⟨e, u, v, hquoted, -, hu, hv, hstands⟩ | ⟨hquoted, hplain⟩ := quoteChar_cases c
  · have hunits : Units.ofChars (quoteChar c) = [0x5C, u] := by
      rw [hquoted, Units.ofChars_cons, Units.ofChars_cons, hu]
      rfl
    rw [hunits, hv]
    exact readQuoted?_escape hstands rest
  · rw [hquoted, Units.ofChars_cons, Units.ofChars_nil, List.append_nil]
    exact readQuoted?_bares (isBare_of_mem hplain) rest

/-- The characters of a quoted text. -/
theorem toList_quote (name : String) : (quote name).toList = name.toList.flatMap quoteChar := by
  simp [quote]

/-- A quoted name is read as that name, and what follows its closing quote is left. -/
theorem readQuoted?_quote (name : String) (rest : List UInt16) :
    readQuoted? 0 (Units.ofChars (quote name).toList ++ 0x22 :: rest)
      = some (Units.ofChars name.toList, rest) := by
  rw [toList_quote]
  induction name.toList with
  | nil => rfl
  | cons c cs ih =>
    rw [List.flatMap_cons, Units.ofChars_append, List.append_assoc, readQuoted?_quoteChar, ih]
    rfl

theorem quotedValue?_quote (name : String) : quotedValue? (quote name) = some (Units.ofChars name.toList) := by
  rw [quotedValue?, readQuoted?_quote]

/-- A quoted name stays on its line. -/
theorem newline_notMem_quote (name : String) : '\n' ∉ (quote name).toList := by
  intro hmem
  rw [toList_quote] at hmem
  obtain ⟨c, -, hc⟩ := List.mem_flatMap.1 hmem
  obtain ⟨e, u, v, hquoted, hline, -⟩ | ⟨hquoted, -, hline, -⟩ := quoteChar_cases c
  · rw [hquoted] at hc
    simp [hline.symm] at hc
  · rw [hquoted] at hc
    exact hline (List.mem_singleton.1 hc).symm

end ScriptHost
