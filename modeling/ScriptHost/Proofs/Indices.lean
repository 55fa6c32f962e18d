import Mathlib.Data.List.Induction
import ScriptHost.ProtoScript.Object

/-!
# Array indices as text

A property name stands for an array index if it is how the index is written in decimal, so indices and their
names determine each other.

* `toDigits_ofDigitChars` — digits without a leading zero are the digits of their value.
* `indexOf?_toString` — the name of an index stands for it.
* `toString_of_indexOf?` — **what stands for an index is its name**.
* `Key.index?_ofNat`, `Key.ofNat_of_index?` — the same for keys.
-/

namespace ScriptHost.ProtoScript

/-! ## Digits -/

/-- A digit is the digit of its value. -/
theorem digitChar_of_isDigit {c : Char} (h : c.isDigit = true) :
    c.toNat - 48 < 10 ∧ (c.toNat - 48).digitChar = c := by
  rw [Char.isDigit, Bool.and_eq_true, decide_eq_true_eq, decide_eq_true_eq] at h
  obtain ⟨hlow, hhigh⟩ := h
  rw [ge_iff_le, UInt32.le_iff_toNat_le] at hlow
  rw [UInt32.le_iff_toNat_le] at hhigh
  have hlow : 48 ≤ c.toNat := hlow
  have hhigh : c.toNat ≤ 57 := hhigh
  have hlt : c.toNat - 48 < 10 := by omega
  refine ⟨hlt, Char.toNat_inj.mp ?_⟩
  rw [Nat.toNat_digitChar_of_lt_ten hlt]
  omega

theorem utf8ByteSize_ofList_digits {cs : List Char} (h : ∀ c ∈ cs, c.isDigit = true) :
    (String.ofList cs).utf8ByteSize = cs.length := by
  induction cs with
  | nil => rfl
  | cons c cs ih =>
    have hc : c.isDigit = true := h c (by simp)
    have hsize : c.utf8Size = 1 := by
      rw [Char.isDigit, Bool.and_eq_true, decide_eq_true_eq, decide_eq_true_eq] at hc
      exact Char.utf8Size_eq_one_iff.mpr (UInt32.le_trans hc.2 (by decide))
    rw [String.ofList_cons, String.utf8ByteSize_append, String.utf8ByteSize_singleton, hsize,
      ih fun d hd => h d (by simp [hd]), List.length_cons, Nat.add_comm]

theorem isDigit_of_mem_digits {n : Nat} {c : Char} (h : c ∈ Nat.toDigits 10 n) : c.isDigit = true :=
  Nat.isDigit_of_mem_toDigits (by decide) (by decide) h

/-- Only zero is written with a leading zero. -/
theorem eq_zero_of_toDigits {n : Nat} {rest : List Char} (h : Nat.toDigits 10 n = '0' :: rest) :
    n = 0 := by
  induction n using Nat.strongRecOn generalizing rest with
  | ind n ih =>
    rw [Nat.toDigits_eq_if (by decide)] at h
    split at h
    · have hzero : n.digitChar = '0' := by simpa using congrArg List.head? h
      exact Nat.digitChar_eq_zero.mp hzero
    · obtain ⟨c, cs, hcs⟩ := List.exists_cons_of_ne_nil (Nat.toDigits_ne_nil (n := n / 10) (b := 10))
      have hc : c = '0' := by simpa [hcs] using congrArg List.head? h
      have hquotient : n / 10 = 0 := ih (n / 10) (by omega) (hc ▸ hcs)
      omega

/-- Digits without a leading zero are the digits of their value. -/
theorem toDigits_ofDigitChars {cs : List Char} (hdigits : ∀ c ∈ cs, c.isDigit = true) (hne : cs ≠ [])
    (hlead : cs.head? ≠ some '0') : Nat.toDigits 10 (Nat.ofDigitChars 10 cs 0) = cs := by
  induction cs using List.reverseRecOn with
  | nil => exact absurd rfl hne
  | append_singleton cs c ih =>
    obtain ⟨hlt, hchar⟩ := digitChar_of_isDigit (hdigits c (by simp))
    rw [Nat.ofDigitChars_append, Nat.ofDigitChars_cons, Nat.ofDigitChars_nil]
    change Nat.toDigits 10 (10 * Nat.ofDigitChars 10 cs 0 + (c.toNat - 48)) = cs ++ [c]
    by_cases hnil : cs = []
    · rw [hnil, Nat.ofDigitChars_nil, Nat.mul_zero, Nat.zero_add, Nat.toDigits_of_lt_base hlt, hchar]
      rfl
    · have hhead : cs.head? ≠ some '0' := by
        rwa [List.head?_append, Option.or_of_isSome (List.isSome_head?.mpr hnil)] at hlead
      have hbefore := ih (fun d hd => hdigits d (by simp [hd])) hnil hhead
      have hpos : 0 < Nat.ofDigitChars 10 cs 0 := by
        refine Nat.pos_of_ne_zero fun hzero => hhead ?_
        rw [← hbefore, hzero]
        rfl
      rw [← Nat.toDigits_append_toDigits (by decide) hpos hlt, hbefore, Nat.toDigits_of_lt_base hlt, hchar]

/-! ## Indices -/

/-- The name of an index stands for it. -/
theorem indexOf?_toString {i : Nat} (h : i < 4294967295) : indexOf? (toString i) = some i := by
  have htext : toString i = String.ofList (Nat.toDigits 10 i) := Nat.toString_eq_ofList_toDigits
  have hlist : (toString i).toList = Nat.toDigits 10 i := by rw [htext, String.toList_ofList]
  have hlength : (Nat.toDigits 10 i).length ≤ 10 :=
    (Nat.length_toDigits_le_iff (by decide) (by decide)).mpr (Nat.lt_trans h (by decide))
  have hsize : ¬ (toString i).utf8ByteSize > 10 := by
    rw [htext, utf8ByteSize_ofList_digits fun c hc => isDigit_of_mem_digits hc]
    omega
  obtain ⟨c, cs, hcs⟩ := List.exists_cons_of_ne_nil (Nat.toDigits_ne_nil (n := i) (b := 10))
  have hfront : (toString i).front.isDigit = true := by
    rw [String.front_eq, String.front?_eq, hlist, hcs]
    exact isDigit_of_mem_digits (n := i) (by simp [hcs])
  have hall : (Nat.toDigits 10 i).all Char.isDigit = true :=
    List.all_eq_true.mpr fun c hc => isDigit_of_mem_digits hc
  have hvalue : (Nat.toDigits 10 i).foldl (fun v c => 10 * v + (c.toNat - 48)) 0 = i :=
    Nat.ofDigitChars_eq_foldl.symm.trans Nat.ofDigitChars_ten_toDigits
  unfold indexOf?
  rw [hfront, hlist]
  simp only [Bool.not_true, Bool.false_or, decide_eq_true_eq, hsize, if_false]
  split
  · next rest hdigits =>
    have hzero := eq_zero_of_toDigits hdigits
    subst hzero
    have hrest : rest = [] := by simpa using hdigits.symm
    simp [hrest]
  · rw [if_pos hall, hvalue, if_pos h]

/-- What stands for an index is its name. -/
theorem toString_of_indexOf? {s : String} {i : Nat} (h : indexOf? s = some i) : toString i = s := by
  unfold indexOf? at h
  split at h
  · simp at h
  · next hdigit =>
    split at h
    · next rest hlist =>
      split at h
      · next hrest =>
        have hzero : 0 = i := by simpa using h
        rw [List.isEmpty_iff] at hrest
        rw [← hzero, ← String.ofList_toList (s := s), hlist, hrest]
        rfl
      · simp at h
    · next hlead =>
      split at h
      · next hall =>
        simp only at h
        split at h
        · have hvalue : Nat.ofDigitChars 10 s.toList 0 = i :=
            Nat.ofDigitChars_eq_foldl.trans (Option.some.inj h)
          have hne : s.toList ≠ [] := by
            intro hnil
            simp [String.front_eq, String.front?_eq, hnil] at hdigit
          have hhead : s.toList.head? ≠ some '0' := by
            intro hhead
            obtain ⟨rest, hrest⟩ := List.head?_eq_some_iff.mp hhead
            exact hlead rest hrest
          have hdigits := toDigits_ofDigitChars (List.all_eq_true.mp hall) hne hhead
          rw [← hvalue, Nat.toString_eq_ofList_toDigits, hdigits, String.ofList_toList]
        · simp at h
      · simp at h

/-! ## Keys -/

namespace Key

theorem index?_ofNat {i : Nat} (h : i < 4294967295) : (ofNat i).index? = some i := indexOf?_toString h

theorem ofNat_of_index? {k : Key} {i : Nat} (h : k.index? = some i) : ofNat i = k := by
  cases k with
  | name s => exact congrArg Key.name (toString_of_indexOf? h)
  | symbol id => simp [index?] at h

/-- The name of an index is not that of the length. -/
theorem ofNat_ne_length {i : Nat} (h : i < 4294967295) : ofNat i ≠ .name "length" := by
  intro hlength
  have hnone : (Key.name "length").index? = none := by decide +kernel
  rw [← hlength, index?_ofNat h] at hnone
  simp at hnone

end Key

end ScriptHost.ProtoScript
