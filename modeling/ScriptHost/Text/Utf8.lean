/-!
# Bytes read as UTF-8

`decode` reads bytes as UTF-8 and puts one replacement character for every maximal part of an
ill-formed sequence, as the Unicode standard recommends; `decode?` refuses ill-formed bytes.  The bytes
of a text are read as that text (`decode_encode`).
-/

namespace ScriptHost.Text.Utf8

/-- The character that stands for bytes that are not UTF-8. -/
def replacement : Char := Char.ofNat 0xFFFD

/-- How a first byte begins: the number of bytes that follow, the bounds of the second byte, and the
bits that it contributes. -/
private def lead? (b : Nat) : Option (Nat × Nat × Nat × Nat) :=
  if b < 0x80 then some (0, 0, 0, b)
  else if 0xC2 ≤ b && b ≤ 0xDF then some (1, 0x80, 0xBF, b - 0xC0)
  else if b == 0xE0 then some (2, 0xA0, 0xBF, 0)
  else if b == 0xED then some (2, 0x80, 0x9F, 0xD)
  else if 0xE1 ≤ b && b ≤ 0xEF then some (2, 0x80, 0xBF, b - 0xE0)
  else if b == 0xF0 then some (3, 0x90, 0xBF, 0)
  else if 0xF1 ≤ b && b ≤ 0xF3 then some (3, 0x80, 0xBF, b - 0xF0)
  else if b == 0xF4 then some (3, 0x80, 0x8F, 4)
  else none

/-- Reads `n` continuation bytes, the first of them within bounds: the bytes used, and the code
point unless one is missing. -/
private def continuation : Nat → Nat → Nat → Nat → List UInt8 → Nat × Option Nat
  | 0, _, _, acc, _ => (0, some acc)
  | _ + 1, _, _, _, [] => (0, none)
  | n + 1, lo, hi, acc, b :: rest =>
    let v := b.toNat
    if lo ≤ v && v ≤ hi then
      let (used, r) := continuation n 0x80 0xBF (acc * 64 + (v - 0x80)) rest
      (used + 1, r)
    else (0, none)

/-- The first character of some bytes, or `none` for an ill-formed part, with the bytes it takes. -/
def step (b : UInt8) (rest : List UInt8) : Option Char × Nat :=
  match lead? b.toNat with
  | none => (none, 1)
  | some (n, lo, hi, acc) =>
    let (used, r) := continuation n lo hi acc rest
    (r.map Char.ofNat, used + 1)

/-- All characters of some bytes, with `none` for every ill-formed part. -/
def pieces : Nat → List UInt8 → List (Option Char)
  | 0, _ => []
  | _, [] => []
  | fuel + 1, b :: rest =>
    let (c, n) := step b rest
    c :: pieces fuel (rest.drop (n - 1))

/-- Bytes as text; what is ill-formed becomes the replacement character. -/
def decode (bytes : List UInt8) : String :=
  String.ofList ((pieces bytes.length bytes).map (·.getD replacement))

/-- Bytes as text, if they are well-formed. -/
def decode? (bytes : List UInt8) : Option String :=
  ((pieces bytes.length bytes).mapM id).map String.ofList

/-- The bytes of a text. -/
def encode (s : String) : List UInt8 := s.toUTF8.toList

theorem toList_loop (bs : ByteArray) (i : Nat) (acc : List UInt8) :
    ByteArray.toList.loop bs i acc = acc.reverse ++ bs.data.toList.drop i := by
  fun_induction ByteArray.toList.loop bs i acc with
  | case1 i acc hi ih =>
    have hi' : i < bs.data.toList.length := hi
    have hbyte : bs.get! i = bs.data.toList[i] := by
      change bs.data[i]! = _
      rw [getElem!_pos bs.data i hi, Array.getElem_toList]
    rw [ih, List.drop_eq_getElem_cons hi', List.reverse_cons, List.append_assoc, hbyte]
    rfl
  | case2 i acc hi =>
    have hi' : bs.data.toList.length ≤ i := Nat.le_of_not_lt hi
    rw [List.drop_of_length_le hi', List.append_nil]

theorem toList_eq (bs : ByteArray) : bs.toList = bs.data.toList := by
  rw [ByteArray.toList, toList_loop]
  rfl

theorem length_encode (s : String) : (encode s).length = s.utf8ByteSize := by
  rw [encode, toList_eq]
  rfl

/-! ## Reading what was written -/

theorem encode_ofList (cs : List Char) : encode (String.ofList cs) = cs.flatMap String.utf8EncodeChar := by
  rw [encode, toList_eq]
  change (String.ofList cs).toByteArray.data.toList = _
  rw [String.toByteArray_ofList, List.utf8Encode, List.toList_data_toByteArray]

theorem continuation_cons {n lo hi acc v : Nat} (hlo : lo ≤ v + 128) (hhi : v + 128 ≤ hi) (hv : v < 64)
    (rest : List UInt8) : continuation (n + 1) lo hi acc (UInt8.ofNat (v + 128) :: rest)
      = ((continuation n 0x80 0xBF (acc * 64 + v) rest).1 + 1, (continuation n 0x80 0xBF (acc * 64 + v) rest).2) := by
  have hbyte : (UInt8.ofNat (v + 128)).toNat = v + 128 := by
    rw [UInt8.toNat_ofNat']
    omega
  rw [continuation]
  simp only [hbyte, hlo, hhi, decide_true, Bool.and_self, if_true, Nat.add_sub_cancel]

theorem lead?_two {v : Nat} (hv : 2 ≤ v) (hv' : v < 32) : lead? (v + 192) = some (1, 0x80, 0xBF, v) := by
  have hbounds : (decide (0xC2 ≤ v + 192) && decide (v + 192 ≤ 0xDF)) = true := by
    simp only [Bool.and_eq_true, decide_eq_true_eq]
    omega
  rw [lead?, if_neg (by omega), if_pos hbounds, Nat.add_sub_cancel]

theorem lead?_three : ∀ v < 16, lead? (v + 224)
    = some (2, if v = 0 then 0xA0 else 0x80, if v = 13 then 0x9F else 0xBF, v) := by decide

theorem lead?_four : ∀ v < 5, lead? (v + 240)
    = some (3, if v = 0 then 0x90 else 0x80, if v = 4 then 0x8F else 0xBF, v) := by decide

/-- The bytes of one character are read as that character, whatever follows. -/
theorem step_encodeChar (c : Char) (rest : List UInt8) : ∃ b bs, String.utf8EncodeChar c = b :: bs ∧
    step b (bs ++ rest) = (some c, bs.length + 1) := by
  have hvalid : c.val.toNat < 0xD800 ∨ 0xDFFF < c.val.toNat ∧ c.val.toNat < 0x110000 := c.valid
  have hself : Char.ofNat c.val.toNat = c := Char.ofNat_toNat c
  have hbyte {n : Nat} (hn : n < 256) : (UInt8.ofNat n).toNat = n := by
    rw [UInt8.toNat_ofNat']
    exact Nat.mod_eq_of_lt hn
  unfold String.utf8EncodeChar
  generalize c.val.toNat = v at hvalid hself ⊢
  dsimp only
  split
  · next hone =>
    refine ⟨_, _, rfl, ?_⟩
    rw [step, hbyte (by omega), lead?, if_pos (by omega)]
    simp only [continuation, Option.map_some, hself]
    rfl
  split
  · next hone htwo =>
    refine ⟨_, _, rfl, ?_⟩
    have hv : v / 64 % 32 * 64 + v % 64 = v := by omega
    rw [step, hbyte (by omega), lead?_two (by omega) (by omega)]
    dsimp only [List.cons_append]
    rw [continuation_cons (by omega) (by omega) (by omega)]
    simp only [continuation, Option.map_some, hv, hself]
    rfl
  split
  · next hone htwo hthree =>
    refine ⟨_, _, rfl, ?_⟩
    have hv : (v / 4096 % 16 * 64 + v / 64 % 64) * 64 + v % 64 = v := by omega
    rw [step, hbyte (by omega), lead?_three _ (by omega)]
    dsimp only [List.cons_append]
    rw [continuation_cons (by split <;> omega) (by split <;> omega) (by omega),
      continuation_cons (by omega) (by omega) (by omega)]
    simp only [continuation, Option.map_some, hv, hself]
    rfl
  · next hone htwo hthree =>
    refine ⟨_, _, rfl, ?_⟩
    have hv : ((v / 262144 % 8 * 64 + v / 4096 % 64) * 64 + v / 64 % 64) * 64 + v % 64 = v := by omega
    rw [step, hbyte (by omega), lead?_four _ (by omega)]
    dsimp only [List.cons_append]
    rw [continuation_cons (by split <;> omega) (by split <;> omega) (by omega),
      continuation_cons (by omega) (by omega) (by omega), continuation_cons (by omega) (by omega) (by omega)]
    simp only [continuation, Option.map_some, hv, hself]
    rfl

theorem pieces_encode (cs : List Char) {fuel : Nat} (hfuel : (cs.flatMap String.utf8EncodeChar).length ≤ fuel) :
    pieces fuel (cs.flatMap String.utf8EncodeChar) = cs.map some := by
  induction cs generalizing fuel with
  | nil => cases fuel <;> rfl
  | cons c cs ih =>
    obtain ⟨b, bs, hbytes, hstep⟩ := step_encodeChar c (cs.flatMap String.utf8EncodeChar)
    rw [List.flatMap_cons, hbytes, List.cons_append] at hfuel ⊢
    cases fuel with
    | zero => cases hfuel
    | succ fuel =>
      rw [List.length_cons, List.length_append] at hfuel
      rw [pieces, hstep]
      dsimp only
      rw [Nat.add_sub_cancel, List.drop_left, ih (by omega), List.map_cons]

/-- **A text is read back** from its bytes. -/
theorem decode_encode (s : String) : decode (encode s) = s := by
  obtain ⟨cs, rfl⟩ := s.exists_eq_ofList
  rw [decode, encode_ofList, pieces_encode cs (Nat.le_refl _), List.map_map]
  congr 1
  exact List.map_id' cs

end ScriptHost.Text.Utf8
