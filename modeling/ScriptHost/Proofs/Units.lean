import ScriptHost.Text.Utf16

/-!
# Characters and 16-bit units

The text of a string in 16-bit units is the concatenation of what its characters take: one unit, or a
high and a low surrogate.  Read back, the units give the string again.

* `Units.ofChar` — the units of one character.
* `Units.ofString_toList` — the units of a string, character by character.
* `Units.toString_ofString` — **the round trip**.
* `Units.strayOffset?_ofString` — no string has a surrogate without a partner.
* `Units.exists_chars` — characters stand among units where they stand among characters.
-/

namespace ScriptHost.Text.Units

/-- The units of a character. -/
def ofChar (c : Char) : List UInt16 :=
  if c.toNat < 0x10000 then [c.toNat.toUInt16]
  else [(0xD800 + (c.toNat - 0x10000) / 0x400).toUInt16,
    (0xDC00 + (c.toNat - 0x10000) % 0x400).toUInt16]

/-- The units of characters. -/
def ofChars (cs : List Char) : List UInt16 := cs.flatMap ofChar

@[simp] theorem ofChars_nil : ofChars [] = [] := rfl

@[simp] theorem ofChars_cons (c : Char) (cs : List Char) :
    ofChars (c :: cs) = ofChar c ++ ofChars cs := rfl

@[simp] theorem ofChars_append (cs ds : List Char) :
    ofChars (cs ++ ds) = ofChars cs ++ ofChars ds := List.flatMap_append

theorem pushCode_toNat (us : Units) (c : Char) :
    us.pushCode c.toNat = us ++ (ofChar c).toArray := by
  apply Array.ext'
  unfold pushCode ofChar
  split <;> simp

theorem foldl_pushCode (cs : List Char) (us : Units) :
    cs.foldl (fun us c => pushCode us c.toNat) us = us ++ (ofChars cs).toArray := by
  induction cs generalizing us with
  | nil => simp
  | cons c cs ih =>
    rw [List.foldl_cons, ih, pushCode_toNat, Array.append_assoc, ofChars_cons]
    simp

theorem ofString_eq (s : String) : ofString s = (ofChars s.toList).toArray := by
  rw [ofString, String.foldl_eq_foldl_toList, foldl_pushCode]
  simp

theorem ofString_toList (s : String) : (ofString s).toList = ofChars s.toList := by
  simp [ofString_eq]

/-! ## Characters read from units -/

theorem at0_eq (us : Units) (i : Nat) : us.at0 i = (us.toList.drop i).headD 0 := by
  unfold at0
  split
  · next h =>
    rw [List.drop_eq_getElem_cons (by simpa using h)]
    rfl
  · next h =>
    rw [List.drop_eq_nil_of_le (by simpa using h)]
    rfl

theorem at0_succ_eq (us : Units) (i : Nat) : us.at0 (i + 1) = (us.toList.drop i).tail.headD 0 := by
  rw [at0_eq, List.tail_drop]

/-- A surrogate is no character. -/
theorem toNat_lt_or_gt (c : Char) : c.toNat < 0xD800 ∨ 0xDFFF < c.toNat ∧ c.toNat < 0x110000 :=
  c.valid

theorem ofChar_length_pos (c : Char) : 0 < (ofChar c).length := by
  unfold ofChar
  split <;> simp

theorem toNat_toUInt16 {n : Nat} (h : n < 0x10000) : n.toUInt16.toNat = n := by
  simpa using h

/-- Where the units of a character stand, the character is read. -/
theorem codeAt_ofChar {us : Units} {i : Nat} {c : Char} {rest : List UInt16}
    (h : us.toList.drop i = ofChar c ++ rest) :
    us.codeAt i = (c.toNat, (ofChar c).length) := by
  have hc := toNat_lt_or_gt c
  unfold codeAt isHigh isLow
  rw [at0_succ_eq, at0_eq, h]
  simp only [UInt16.le_iff_toNat_le]
  unfold ofChar
  split
  · next hsmall =>
    have hunit := toNat_toUInt16 hsmall
    have hhigh : ¬ (0xD800 ≤ c.toNat ∧ c.toNat ≤ 0xDBFF) := by omega
    simp [hunit, hhigh]
  · next hlarge =>
    have hunit : (0xD800 + (c.toNat - 0x10000) / 0x400).toUInt16.toNat
        = 0xD800 + (c.toNat - 0x10000) / 0x400 := toNat_toUInt16 (by omega)
    have hnext : (0xDC00 + (c.toNat - 0x10000) % 0x400).toUInt16.toNat
        = 0xDC00 + (c.toNat - 0x10000) % 0x400 := toNat_toUInt16 (by omega)
    generalize (0xD800 + (c.toNat - 0x10000) / 0x400).toUInt16 = u at hunit ⊢
    generalize (0xDC00 + (c.toNat - 0x10000) % 0x400).toUInt16 = v at hnext ⊢
    have hhigh : 0xD800 ≤ u.toNat ∧ u.toNat ≤ 0xDBFF := by omega
    have hlow : 0xDC00 ≤ v.toNat ∧ v.toNat ≤ 0xDFFF := by omega
    have hcode : 0x10000 + (u.toNat - 0xD800) * 0x400 + (v.toNat - 0xDC00) = c.toNat := by omega
    simp [hhigh, hlow, hcode]

/-- Reading on from a place where characters stand gives their codes. -/
theorem codesFrom_ofChars {us : Units} {cs : List Char} {fuel i : Nat}
    (h : us.toList.drop i = ofChars cs) (hfuel : us.size - i ≤ fuel) :
    us.codesFrom fuel i = cs.map Char.toNat := by
  induction cs generalizing fuel i with
  | nil =>
    have hend : us.size ≤ i := by simpa using h
    cases fuel with
    | zero => rfl
    | succ fuel => simp [codesFrom, hend]
  | cons c cs ih =>
    have hpos := ofChar_length_pos c
    have hlength := congrArg List.length h
    simp only [ofChars_cons, List.length_append, List.length_drop, Array.length_toList] at hlength
    obtain ⟨fuel, rfl⟩ : ∃ n, fuel = n + 1 := ⟨fuel - 1, by omega⟩
    have hin : i < us.size := by omega
    have hrest : us.toList.drop (i + (ofChar c).length) = ofChars cs := by
      rw [← List.drop_drop, h, ofChars_cons, List.drop_left]
    have hread : us.codesFrom fuel (i + (ofChar c).length) = cs.map Char.toNat :=
      ih hrest (by omega)
    simp [codesFrom, hin, codeAt_ofChar h, hread]

theorem codes_ofString (s : String) : (ofString s).codes = s.toList.map Char.toNat :=
  codesFrom_ofChars (by simp [ofString_toList]) (by simp)

theorem strayAmong_map_toNat (cs : List Char) (offset : Nat) :
    strayAmong offset (cs.map Char.toNat) = none := by
  induction cs generalizing offset with
  | nil => rfl
  | cons c cs ih =>
    have hc := toNat_lt_or_gt c
    have hno : ¬ (0xD800 ≤ c.toNat ∧ c.toNat ≤ 0xDFFF) := by omega
    simp [strayAmong, hno, ih]

/-- No string has a surrogate without a partner. -/
theorem strayOffset?_ofString (s : String) : (ofString s).strayOffset? = none := by
  rw [strayOffset?, codes_ofString, strayAmong_map_toNat]

/-- Reading on from a place where characters stand appends them. -/
theorem appendFrom_ofChars {us : Units} {cs : List Char} {fuel i : Nat} (acc : String)
    (h : us.toList.drop i = ofChars cs) (hfuel : us.size - i ≤ fuel) :
    us.appendFrom fuel i acc = acc ++ String.ofList cs := by
  induction cs generalizing fuel i acc with
  | nil =>
    have hend : us.size ≤ i := by simpa using h
    cases fuel with
    | zero => simp [appendFrom]
    | succ fuel => simp [appendFrom, Nat.not_lt.mpr hend]
  | cons c cs ih =>
    have hc := toNat_lt_or_gt c
    have hno : ¬ (0xD800 ≤ c.toNat ∧ c.toNat ≤ 0xDFFF) := by omega
    have hpos := ofChar_length_pos c
    have hlength := congrArg List.length h
    simp only [ofChars_cons, List.length_append, List.length_drop, Array.length_toList] at hlength
    obtain ⟨fuel, rfl⟩ : ∃ n, fuel = n + 1 := ⟨fuel - 1, by omega⟩
    have hin : i < us.size := by omega
    have hrest : us.toList.drop (i + (ofChar c).length) = ofChars cs := by
      rw [← List.drop_drop, h, ofChars_cons, List.drop_left]
    simp only [appendFrom, hin, if_true, codeAt_ofChar h]
    rw [ih _ hrest (by omega)]
    simp [hno, String.ext_iff, Char.ofNat_toNat]

/-- Units of characters read back. -/
theorem toString_ofChars (cs : List Char) :
    toString (ofChars cs).toArray = String.ofList cs := by
  have hread : appendFrom (ofChars cs).toArray (ofChars cs).toArray.size 0 ""
      = "" ++ String.ofList cs := appendFrom_ofChars "" (by simp) (by simp)
  simpa [toString] using hread

/-- The round trip through units. -/
theorem toString_ofString (s : String) : toString (ofString s) = s := by
  rw [ofString_eq, toString_ofChars, String.ofList_toList]

/-! ## Characters among units -/

/-- Units begin with one character at most. -/
theorem ofChar_append_inj {c d : Char} {us vs : List UInt16} (h : ofChar c ++ us = ofChar d ++ vs) :
    c = d ∧ us = vs := by
  have hread (e : Char) (ws : List UInt16) : codeAt (ofChar e ++ ws).toArray 0 = (e.toNat, (ofChar e).length) :=
    codeAt_ofChar rfl
  have hcode : (c.toNat, (ofChar c).length) = (d.toNat, (ofChar d).length) := by rw [← hread c us, h, hread]
  obtain rfl : c = d := Char.toNat_inj.mp (congrArg Prod.fst hcode)
  exact ⟨rfl, List.append_cancel_left h⟩

theorem exists_chars_after {cs part : List Char} {vs : List UInt16} (h : ofChars cs = ofChars part ++ vs) :
    ∃ after, cs = part ++ after ∧ ofChars after = vs := by
  induction part generalizing cs with
  | nil => exact ⟨cs, rfl, h⟩
  | cons c part ih =>
    cases cs with
    | nil =>
      have hpos := ofChar_length_pos c
      have hlength := congrArg List.length h
      simp only [ofChars_nil, ofChars_cons, List.length_append, List.length_nil] at hlength
      omega
    | cons d cs =>
      rw [ofChars_cons, ofChars_cons, List.append_assoc] at h
      obtain ⟨rfl, hrest⟩ := ofChar_append_inj h
      obtain ⟨after, rfl, hafter⟩ := ih hrest
      exact ⟨after, rfl, hafter⟩

/-- The second unit of a character begins no other. -/
theorem ofChar_append_ne_low (c : Char) {n : Nat} (hn : n < 0x400) (us vs : List UInt16) :
    ofChar c ++ us ≠ (0xDC00 + n).toUInt16 :: vs := by
  have hc := toNat_lt_or_gt c
  have hlow := toNat_toUInt16 (n := 0xDC00 + n) (by omega)
  unfold ofChar
  split
  · next hsmall =>
    have hunit := toNat_toUInt16 hsmall
    intro h
    rw [(List.cons.inj h).1] at hunit
    omega
  · next hlarge =>
    have hunit := toNat_toUInt16 (n := 0xD800 + (c.toNat - 0x10000) / 0x400) (by omega)
    intro h
    rw [(List.cons.inj h).1] at hunit
    omega

/-- A character is taken apart only before its second unit. -/
theorem ofChar_eq_append {c : Char} {us vs : List UInt16} (h : ofChar c = us ++ vs) :
    us = [] ∨ vs = [] ∨ ∃ n < 0x400, vs = [(0xDC00 + n).toUInt16] := by
  cases us with
  | nil => exact .inl rfl
  | cons u us =>
    unfold ofChar at h
    split at h
    · have hrest : us ++ vs = [] := (List.cons.inj h).2.symm
      exact .inr (.inl (List.append_eq_nil_iff.mp hrest).2)
    · have hrest : us ++ vs = [(0xDC00 + (c.toNat - 0x10000) % 0x400).toUInt16] := (List.cons.inj h).2.symm
      rcases List.append_eq_singleton_iff.mp hrest with ⟨-, hvs⟩ | ⟨-, hvs⟩
      · exact .inr (.inr ⟨_, Nat.mod_lt _ (by decide), hvs⟩)
      · exact .inr (.inl hvs)

/-- Characters stand among units where they stand among characters. -/
theorem exists_chars {cs part : List Char} {c : Char} {us vs : List UInt16}
    (h : ofChars cs = us ++ (ofChars (c :: part) ++ vs)) :
    ∃ before after, cs = before ++ (c :: part ++ after) ∧ ofChars before = us ∧ ofChars after = vs := by
  induction cs generalizing us with
  | nil =>
    have hpos := ofChar_length_pos c
    have hlength := congrArg List.length h
    simp only [ofChars_nil, ofChars_cons, List.length_append, List.length_nil] at hlength
    omega
  | cons d cs ih =>
    rw [ofChars_cons] at h
    rcases List.append_eq_append_iff.mp h with ⟨us', rfl, hrest⟩ | ⟨left, hleft, hrest⟩
    · obtain ⟨before, after, rfl, rfl, hafter⟩ := ih hrest
      exact ⟨d :: before, after, rfl, rfl, hafter⟩
    · rcases ofChar_eq_append hleft with rfl | rfl | ⟨n, hn, rfl⟩
      · have hhere : ofChars (d :: cs) = ofChars (c :: part) ++ vs := h
        obtain ⟨after, hcs, hafter⟩ := exists_chars_after hhere
        exact ⟨[], after, hcs, rfl, hafter⟩
      · have hbehind : ofChars cs = [] ++ (ofChars (c :: part) ++ vs) := hrest.symm
        obtain ⟨before, after, rfl, hbefore, hafter⟩ := ih hbehind
        refine ⟨d :: before, after, rfl, ?_, hafter⟩
        rw [ofChars_cons, hbefore, hleft, List.append_nil, List.append_nil]
      · rw [ofChars_cons, List.append_assoc] at hrest
        exact (ofChar_append_ne_low c hn _ _ hrest).elim

end ScriptHost.Text.Units
