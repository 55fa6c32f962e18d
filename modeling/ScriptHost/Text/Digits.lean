/-!
# Decimal digits and small numbers

* `isDecimal` — the characters of the category of decimal digits, of any script.
* `readWord?` — a number below 2^32 written in the digits 0 to 9.
* `Numeral` — such a number as it is written, and `readWord?_eq_some_iff`: nothing else is read.
-/

namespace ScriptHost.Text

/-- The digits zero of all scripts; each is followed by the other nine. -/
def decimalZeros : List Nat := [
  0x30, 0x660, 0x6F0, 0x7C0, 0x966, 0x9E6, 0xA66, 0xAE6, 0xB66, 0xBE6, 0xC66, 0xCE6, 0xD66, 0xDE6,
  0xE50, 0xED0, 0xF20, 0x1040, 0x1090, 0x17E0, 0x1810, 0x1946, 0x19D0, 0x1A80, 0x1A90, 0x1B50,
  0x1BB0, 0x1C40, 0x1C50, 0xA620, 0xA8D0, 0xA900, 0xA9D0, 0xA9F0, 0xAA50, 0xABF0, 0xFF10, 0x104A0,
  0x10D30, 0x10D40, 0x11066, 0x110F0, 0x11136, 0x111D0, 0x112F0, 0x11450, 0x114D0, 0x11650,
  0x116C0, 0x116D0, 0x116DA, 0x11730, 0x118E0, 0x11950, 0x11BF0, 0x11C50, 0x11D50, 0x11DA0,
  0x11F50, 0x16130, 0x16A60, 0x16AC0, 0x16B50, 0x16D70, 0x1CCF0, 0x1D7CE, 0x1D7D8, 0x1D7E2, 0x1D7EC,
  0x1D7F6, 0x1E140, 0x1E2F0, 0x1E4F0, 0x1E5F1, 0x1E950, 0x1FBF0]

/-- The characters that are decimal digits in some script. -/
def isDecimal (c : Char) : Bool :=
  if c.toNat < 0x80 then c.isDigit
  else decimalZeros.any fun z => z ≤ c.toNat && c.toNat < z + 10

/-- The number that digits stand for. -/
def ofDigits (cs : List Char) : Nat := cs.foldl (fun n c => 10 * n + (c.toNat - 48)) 0

/-- A number below 2^32 written in the digits 0 to 9. -/
def readWord? (cs : List Char) : Option Nat :=
  if cs.isEmpty || !cs.all Char.isDigit then none
  else
    let n := ofDigits cs
    if n < 0x100000000 then some n else none

/-! ## Numbers as they are written -/

/-- A number below 2^32 as it is written: in the digits 0 to 9, with or without zeros in front. -/
structure Numeral where
  digits : List Char
  ne_nil : digits ≠ []
  isDigit : ∀ c ∈ digits, c.isDigit
  small : Nat.ofDigitChars 10 digits 0 < 0x100000000

namespace Numeral

/-- The number that is written. -/
def value (n : Numeral) : Nat := Nat.ofDigitChars 10 n.digits 0

/-- A number without zeros in front. -/
def ofNat (n : Nat) (h : n < 0x100000000) : Numeral where
  digits := Nat.toDigits 10 n
  ne_nil := Nat.toDigits_ne_nil
  isDigit _ hc := Nat.isDigit_of_mem_toDigits (by decide) (by decide) hc
  small := by rwa [Nat.ofDigitChars_ten_toDigits]

theorem value_ofNat (n : Nat) (h : n < 0x100000000) : (ofNat n h).value = n := Nat.ofDigitChars_ten_toDigits

end Numeral

theorem ofDigits_eq (cs : List Char) : ofDigits cs = Nat.ofDigitChars 10 cs 0 := Nat.ofDigitChars_eq_foldl.symm

theorem readWord?_digits (n : Numeral) : readWord? n.digits = some n.value := by
  have hall : n.digits.all Char.isDigit = true := List.all_eq_true.mpr n.isDigit
  simp only [readWord?, List.isEmpty_eq_false_iff.mpr n.ne_nil, hall, ofDigits_eq]
  exact if_pos n.small

/-- What is read as a number is a number as it is written. -/
theorem readWord?_eq_some_iff {cs : List Char} {v : Nat} :
    readWord? cs = some v ↔ ∃ n : Numeral, n.digits = cs ∧ n.value = v := by
  constructor
  · intro h
    unfold readWord? at h
    split at h
    · cases h
    · next hdigits =>
      simp only [Bool.or_eq_true, List.isEmpty_iff, Bool.not_eq_true', not_or, Bool.not_eq_false] at hdigits
      rw [ofDigits_eq] at h
      dsimp only at h
      split at h
      · next hsmall => exact ⟨⟨cs, hdigits.1, List.all_eq_true.mp hdigits.2, hsmall⟩, rfl, Option.some.inj h⟩
      · cases h
  · rintro ⟨n, rfl, rfl⟩
    exact readWord?_digits n

theorem readWord?_eq_none {cs : List Char} (h : ∀ n : Numeral, n.digits ≠ cs) : readWord? cs = none := by
  rw [Option.eq_none_iff_forall_ne_some]
  intro v hv
  obtain ⟨n, hn, -⟩ := readWord?_eq_some_iff.1 hv
  exact h n hn

theorem isDecimal_of_isDigit {c : Char} (h : c.isDigit) : isDecimal c := by
  have hlt : c.toNat < 0x80 := by
    rw [Char.isDigit, Bool.and_eq_true, decide_eq_true_iff, decide_eq_true_iff] at h
    have hnine : c.toNat ≤ 57 := h.2
    omega
  rw [isDecimal, if_pos hlt, h]

theorem Numeral.isDecimal (n : Numeral) : ∀ d ∈ n.digits, Text.isDecimal d := fun d hd =>
  isDecimal_of_isDigit (n.isDigit d hd)

/-! ## Runs of characters of one kind -/

section Runs

variable {p : Char → Bool} {run more : List Char}

theorem takeWhile_run (h : ∀ c ∈ run, p c) (hmore : ∀ c ∈ more.head?, p c = false) :
    (run ++ more).takeWhile p = run := by
  rw [List.takeWhile_append_of_pos h]
  cases more with
  | nil => exact List.append_nil run
  | cons c rest => rw [List.takeWhile_cons_of_neg (by rw [hmore c rfl]; exact Bool.false_ne_true), List.append_nil]

theorem dropWhile_run (h : ∀ c ∈ run, p c) (hmore : ∀ c ∈ more.head?, p c = false) :
    (run ++ more).dropWhile p = more := by
  rw [List.dropWhile_append_of_pos h]
  cases more with
  | nil => rfl
  | cons c rest => rw [List.dropWhile_cons_of_neg (by rw [hmore c rfl]; exact Bool.false_ne_true)]

end Runs

end ScriptHost.Text
