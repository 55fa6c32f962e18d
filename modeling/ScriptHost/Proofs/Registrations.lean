import Mathlib.Data.List.Forall2
import Mathlib.Data.String.Basic
import Mathlib.Tactic.SplitIfs
import ScriptHost.Languages
import ScriptHost.Proofs.Bonds
import ScriptHost.Session

/-!
# Registered languages

A registry is a map under names for which the case of ASCII letters does not count.  Whatever was registered, and in
which spelling, a language has the engine that was registered last under its name.

* `SameLetter`, `SameLanguage` — characters and names that differ in the case of ASCII letters at most.
* `Text.Utf8.encode_lt` — texts in order are in order by their bytes, too.
* `Registry.Holds` — what is kept after some registrations; `Registry.Holds.register` adds one more.
* `Registry.Records` — what a registry answers after some registrations.
* `Registry.registrations_law` — **lookups, listings and starts of sessions after any registrations**.
-/

namespace ScriptHost

/-! ## The order of bytes -/

namespace Text.Utf8

/-- The bytes of a character come before those of a greater one, whatever follows. -/
theorem encodeChar_append_lt {c d : Char} (h : c < d) (xs ys : List UInt8) :
    String.utf8EncodeChar c ++ xs < String.utf8EncodeChar d ++ ys := by
  have hlt : c.val.toNat < d.val.toNat := h
  have hd : d.val.toNat < 0x110000 := by
    have hvalid : d.val.toNat < 0xD800 ∨ 0xDFFF < d.val.toNat ∧ d.val.toNat < 0x110000 := d.valid
    omega
  have hthird (n : Nat) : n / 4096 = n / 64 / 64 := by omega
  have hfourth (n : Nat) : n / 262144 = n / 64 / 64 / 64 := by omega
  unfold String.utf8EncodeChar
  generalize c.val.toNat = v at hlt
  generalize d.val.toNat = w at hlt hd
  dsimp only
  -- One case for each pair of lengths; no character takes more bytes than a greater one.
  split_ifs <;> try omega
  all_goals
    simp only [List.cons_append, List.nil_append, List.cons_lt_cons_iff, UInt8.lt_iff_toNat_lt, ← UInt8.toNat_inj,
      UInt8.toNat_ofNat', hthird, hfourth]
    omega

theorem flatMap_encodeChar_lt {cs ds : List Char} (h : cs < ds) :
    cs.flatMap String.utf8EncodeChar < ds.flatMap String.utf8EncodeChar := by
  induction cs generalizing ds with
  | nil =>
    cases ds with
    | nil => exact absurd h (List.lt_irrefl [])
    | cons d ds =>
      obtain ⟨b, bs, hbytes, -⟩ := step_encodeChar d []
      rw [List.flatMap_cons, hbytes]
      exact List.nil_lt_cons _ _
  | cons c cs ih =>
    cases ds with
    | nil => exact absurd h (List.not_lt_nil _)
    | cons d ds =>
      rw [List.flatMap_cons, List.flatMap_cons]
      obtain hlt | ⟨rfl, hrest⟩ := List.cons_lt_cons_iff.1 h
      · exact encodeChar_append_lt hlt _ _
      · exact List.append_left_lt (ih hrest)

/-- Texts in order are in order by their bytes. -/
theorem encode_lt {s t : String} (h : s < t) : encode s < encode t := by
  rw [← s.ofList_toList, ← t.ofList_toList, encode_ofList, encode_ofList]
  exact flatMap_encodeChar_lt (String.lt_iff_toList_lt.1 h)

end Text.Utf8

/-! ## Names up to the case of letters -/

/-- Characters that are equal, or one ASCII letter in two cases. -/
def SameLetter (c d : Char) : Prop :=
  c = d ∨ c.isUpper ∧ d.toNat = c.toNat + 32 ∨ d.isUpper ∧ c.toNat = d.toNat + 32

instance : DecidableRel SameLetter := fun c d =>
  inferInstanceAs (Decidable (c = d ∨ c.isUpper ∧ d.toNat = c.toNat + 32 ∨ d.isUpper ∧ c.toNat = d.toNat + 32))

/-- Names that are equal up to the case of ASCII letters. -/
def SameLanguage (a b : String) : Prop := List.Forall₂ SameLetter a.toList b.toList

instance : DecidableRel SameLanguage := fun a b =>
  inferInstanceAs (Decidable (List.Forall₂ SameLetter a.toList b.toList))

theorem isUpper_iff {c : Char} : c.isUpper ↔ 65 ≤ c.toNat ∧ c.toNat ≤ 90 := decide_eq_true_iff

theorem toNat_toLower (c : Char) : c.toLower.toNat = if c.isUpper then c.toNat + 32 else c.toNat := by
  by_cases hupper : c.isUpper
  · have hbounds : c.val ≥ 'A'.val ∧ c.val ≤ 'Z'.val := isUpper_iff.1 hupper
    have hhigh : c.val.toNat ≤ 90 := hbounds.2
    have hsum : (c.val.toNat + 32) % 4294967296 = c.val.toNat + 32 := by omega
    have hlower : c.toLower.toNat = (c.val.toNat + 32) % 4294967296 := congrArg Char.toNat (dif_pos hbounds)
    rw [if_pos hupper, hlower, hsum]
    rfl
  · have hbounds : ¬ (c.val ≥ 'A'.val ∧ c.val ≤ 'Z'.val) := fun h => hupper (isUpper_iff.2 h)
    rw [if_neg hupper]
    exact congrArg Char.toNat (dif_neg hbounds)

theorem toLower_eq_toLower_iff {c d : Char} : c.toLower = d.toLower ↔ SameLetter c d := by
  rw [← Char.toNat_inj, toNat_toLower, toNat_toLower, SameLetter, ← Char.toNat_inj]
  simp only [isUpper_iff]
  split <;> split <;> omega

theorem not_isUpper_toLower (c : Char) : ¬ c.toLower.isUpper := by
  rw [isUpper_iff, toNat_toLower]
  simp only [isUpper_iff]
  split <;> omega

theorem toLower_eq_self {c : Char} (h : ¬ c.isUpper) : c.toLower = c := by
  rw [← Char.toNat_inj, toNat_toLower, if_neg h]

namespace Registry

theorem key_eq_key_iff {a b : String} : key a = key b ↔ SameLanguage a b := by
  rw [key, key, ← String.toList_inj, String.toList_map, String.toList_map, ← List.forall₂_eq_eq_eq,
    List.forall₂_map_left_iff, List.forall₂_map_right_iff]
  simp only [toLower_eq_toLower_iff]
  exact Iff.rfl

/-- Names are kept without capitals. -/
theorem not_isUpper_of_mem_key {name : String} {c : Char} (h : c ∈ (key name).toList) : ¬ c.isUpper := by
  rw [key, String.toList_map] at h
  obtain ⟨d, -, rfl⟩ := List.mem_map.1 h
  exact not_isUpper_toLower d

theorem key_eq_self {name : String} (h : ∀ c ∈ name.toList, ¬ c.isUpper) : key name = name := by
  rw [key, ← String.toList_inj, String.toList_map]
  exact (List.map_congr_left fun c hc => toLower_eq_self (h c hc)).trans (List.map_id' _)

/-- The form under which a name is kept is its spelling without capitals. -/
theorem eq_key_iff {a name : String} : name = key a ↔ SameLanguage a name ∧ ∀ c ∈ name.toList, ¬ c.isUpper := by
  rw [← key_eq_key_iff]
  constructor
  · rintro rfl
    have hlower : ∀ c ∈ (key a).toList, ¬ c.isUpper := fun c hc => not_isUpper_of_mem_key hc
    exact ⟨(key_eq_self hlower).symm, hlower⟩
  · rintro ⟨hsame, hlower⟩
    rw [hsame, key_eq_self hlower]

variable {σ δ : Type}

/-! ## One registration -/

theorem mem_names_insertEntry {name k : String} {f : Factory σ} {entries : List (String × Factory σ)} :
    k ∈ (insertEntry name f entries).map (·.1) ↔ k = name ∨ k ∈ entries.map (·.1) := by
  induction entries with
  | nil => simp [insertEntry]
  | cons e rest ih =>
    obtain ⟨k', g⟩ := e
    rw [insertEntry]
    split
    · next hname => simp [hname]
    split
    · simp
    · rw [List.map_cons, List.mem_cons, ih, List.map_cons, List.mem_cons, or_left_comm]

theorem increasing_insertEntry {name : String} {f : Factory σ} {entries : List (String × Factory σ)}
    (h : (entries.map (·.1)).Pairwise (· < ·)) : ((insertEntry name f entries).map (·.1)).Pairwise (· < ·) := by
  induction entries with
  | nil => exact List.pairwise_singleton _ _
  | cons e rest ih =>
    obtain ⟨k', g⟩ := e
    rw [List.map_cons, List.pairwise_cons] at h
    rw [insertEntry]
    split
    · next hname =>
      subst hname
      exact List.pairwise_cons.2 h
    split
    · next hlt =>
      refine List.pairwise_cons.2 ⟨?_, List.pairwise_cons.2 h⟩
      intro k hk
      obtain rfl | hk := List.mem_cons.1 hk
      · exact hlt
      · exact lt_trans hlt (h.1 k hk)
    · next hname hnot =>
      have hgt : k' < name := lt_of_le_of_ne (not_lt.1 hnot) (Ne.symm hname)
      refine List.pairwise_cons.2 ⟨?_, ih h.2⟩
      intro k hk
      obtain rfl | hk := mem_names_insertEntry.1 hk
      · exact hgt
      · exact h.1 k hk

theorem lookup_register (r : Registry σ) (name l : String) (f : Factory σ) :
    (r.register name f).lookup l = if key l = key name then some f else r.lookup l :=
  lookup_insertEntry (key name) f r.entries (key l)

/-! ## Any number of registrations -/

/-- A registry after some more registrations, the first of them first. -/
def registerAll (r : Registry σ) (registrations : List (String × Factory σ)) : Registry σ :=
  registrations.foldl (fun r e => r.register e.1 e.2) r

/-- What a registry keeps of some registrations: the last one under each name. -/
structure Holds (r : Registry σ) (registrations : List (String × Factory σ)) : Prop where
  lookup_eq : ∀ l, r.lookup l = (registrations.reverse.find? fun e => key l = key e.1).map (·.2)
  increasing : r.languages.Pairwise (· < ·)
  mem_languages : ∀ name, name ∈ r.languages ↔ ∃ e ∈ registrations, name = key e.1

theorem holds_empty : (empty : Registry σ).Holds [] where
  lookup_eq _ := rfl
  increasing := List.Pairwise.nil
  mem_languages name := by simp [languages, empty]

/-- **One more registration.** -/
theorem Holds.register {r : Registry σ} {registrations : List (String × Factory σ)} (h : r.Holds registrations)
    (name : String) (f : Factory σ) : (r.register name f).Holds (registrations ++ [(name, f)]) where
  lookup_eq l := by
    rw [lookup_register, h.lookup_eq, List.reverse_append, List.reverse_singleton, List.singleton_append,
      List.find?_cons]
    by_cases hl : key l = key name <;> simp [hl]
  increasing := increasing_insertEntry h.increasing
  mem_languages k := by
    have hstep : k ∈ (r.register name f).languages ↔ k = key name ∨ k ∈ r.languages := mem_names_insertEntry
    rw [hstep, h.mem_languages]
    simp [or_comm]

theorem Holds.registerAll {r : Registry σ} {before : List (String × Factory σ)} (h : r.Holds before)
    (registrations : List (String × Factory σ)) : (r.registerAll registrations).Holds (before ++ registrations) := by
  induction registrations generalizing r before with
  | nil => simpa [Registry.registerAll] using h
  | cons e rest ih =>
    have hrest := ih (h.register e.1 e.2)
    rwa [List.append_assoc, List.singleton_append] at hrest

/-! ## What a registry answers -/

/-- What a registry answers after some registrations. -/
structure Records (r : Registry σ) (registrations : List (String × Factory σ)) : Prop where
  /-- A language has the engine of the last registration under its name. -/
  lookup_some : ∀ l f, r.lookup l = some f ↔ ∃ older name newer, registrations = older ++ (name, f) :: newer
    ∧ SameLanguage name l ∧ ∀ e ∈ newer, ¬ SameLanguage e.1 l
  lookup_none : ∀ l, r.lookup l = none ↔ ∀ e ∈ registrations, ¬ SameLanguage e.1 l
  /-- The names are listed in the order of their bytes, each once. -/
  increasing : r.languages.Pairwise fun a b => Text.Utf8.encode a < Text.Utf8.encode b
  /-- The names that are listed are those that were registered, without capitals. -/
  listed : ∀ name, name ∈ r.languages ↔
    (∃ e ∈ registrations, SameLanguage e.1 name) ∧ ∀ c ∈ name.toList, ¬ c.isUpper
  lookup_isSome : ∀ l, (r.lookup l).isSome ↔ ∃ name ∈ r.languages, SameLanguage name l
  /-- A registration leaves all other languages as they are. -/
  lookup_register : ∀ name f l, ¬ SameLanguage name l → (r.register name f).lookup l = r.lookup l
  /-- Just the languages that are not listed are not found when a session is started. -/
  start_notFound : ∀ {δ : Type} (E : Engine σ δ) l variant host t,
    (Session.start E r l variant host).1 = .error (.engineNotFound t) ↔
      t = l ∧ l ≠ "" ∧ ∀ name ∈ r.languages, ¬ SameLanguage name l

variable {r : Registry σ} {registrations : List (String × Factory σ)}

theorem Holds.lookup_some (h : r.Holds registrations) (l : String) (f : Factory σ) : r.lookup l = some f ↔
    ∃ older name newer, registrations = older ++ (name, f) :: newer
      ∧ SameLanguage name l ∧ ∀ e ∈ newer, ¬ SameLanguage e.1 l := by
  simp only [h.lookup_eq, ← key_eq_key_iff]
  constructor
  · intro hfound
    obtain ⟨⟨name, g⟩, hfind, rfl⟩ := Option.map_eq_some_iff.1 hfound
    obtain ⟨hname, newer, older, hsplit, hnewer⟩ := List.find?_eq_some_iff_append.1 hfind
    refine ⟨older.reverse, name, newer.reverse, ?_, (of_decide_eq_true hname).symm, ?_⟩
    · rw [List.reverse_eq_iff.1 hsplit]
      simp
    · intro e he heq
      have hnot := hnewer e (List.mem_reverse.1 he)
      simp [heq] at hnot
  · rintro ⟨older, name, newer, rfl, hname, hnewer⟩
    refine Option.map_eq_some_iff.2 ⟨(name, f), ?_, rfl⟩
    refine List.find?_eq_some_iff_append.2 ⟨decide_eq_true hname.symm, newer.reverse, older.reverse, by simp, ?_⟩
    intro e he
    have hnot := hnewer e (List.mem_reverse.1 he)
    simp [Ne.symm hnot]

theorem Holds.lookup_none (h : r.Holds registrations) (l : String) :
    r.lookup l = none ↔ ∀ e ∈ registrations, ¬ SameLanguage e.1 l := by
  rw [h.lookup_eq, Option.map_eq_none_iff, List.find?_eq_none]
  simp only [List.mem_reverse, decide_eq_true_iff, ← key_eq_key_iff]
  exact forall₂_congr fun e _ => not_congr eq_comm

/-- A language is found just if it is listed, in some spelling. -/
theorem Holds.lookup_isSome (h : r.Holds registrations) (l : String) :
    (r.lookup l).isSome ↔ ∃ name ∈ r.languages, SameLanguage name l := by
  rw [Option.isSome_iff_ne_none, Ne, h.lookup_none, not_forall]
  simp only [← key_eq_key_iff, h.mem_languages]
  constructor
  · intro hfound
    obtain ⟨e, he⟩ := hfound
    rw [Classical.not_imp, not_not] at he
    refine ⟨key e.1, ⟨e, he.1, rfl⟩, ?_⟩
    rw [key_eq_self fun c hc => not_isUpper_of_mem_key hc, he.2]
  · rintro ⟨name, ⟨e, he, rfl⟩, hname⟩
    rw [key_eq_self fun c hc => not_isUpper_of_mem_key hc] at hname
    exact ⟨e, fun hnot => hnot he hname⟩

/-- A session cannot be started for want of an engine just if the language has none. -/
theorem start_eq_notFound_iff (E : Engine σ δ) (r : Registry σ) (l : String) (variant : Variant) (host : Host)
    (t : String) : (Session.start E r l variant host).1 = .error (.engineNotFound t) ↔
      t = l ∧ l ≠ "" ∧ r.lookup l = none := by
  unfold Session.start
  by_cases hempty : l = ""
  · simp [hempty]
  rw [if_neg (by simpa using hempty)]
  cases hlookup : r.lookup l with
  | none => simp [hempty, eq_comm]
  | some f =>
    -- With a factory all failures are of other kinds.
    simp only [reduceCtorEq, and_false, iff_false]
    split
    · simp
    split
    · simp
    · split <;> simp

theorem Holds.records (h : r.Holds registrations) : r.Records registrations where
  lookup_some := h.lookup_some
  lookup_none := h.lookup_none
  increasing := h.increasing.imp Text.Utf8.encode_lt
  listed name := by
    rw [h.mem_languages]
    simp only [eq_key_iff]
    constructor
    · rintro ⟨e, he, hsame, hlower⟩
      exact ⟨⟨e, he, hsame⟩, hlower⟩
    · rintro ⟨⟨e, he, hsame⟩, hlower⟩
      exact ⟨e, he, hsame, hlower⟩
  lookup_isSome := h.lookup_isSome
  lookup_register name f l hother := by
    rw [Registry.lookup_register, if_neg fun heq => hother (key_eq_key_iff.1 heq.symm)]
  start_notFound E l variant host t := by
    rw [start_eq_notFound_iff, ← Option.not_isSome_iff_eq_none, h.lookup_isSome]
    simp only [not_exists, not_and]

/-- The registrations with which hosts start. -/
def standardRegistrations : List (String × Factory AnyState) :=
  [("jscript", protoScriptFactory), ("javascript", protoScriptFactory), ("lua", tableScriptFactory)]

theorem holds_standard : standard.Holds standardRegistrations := holds_empty.registerAll standardRegistrations

/-- **Registries are maps under names without case.**  After any registrations, in an empty registry or in that with
which hosts start, a language has the engine that was registered last under its name, where the case of ASCII letters
does not count; the names are listed in the order of their bytes, without capitals; and just the languages that are
not listed are not found when a session is started. -/
theorem registrations_law :
    (∀ {σ : Type} (registrations : List (String × Factory σ)), (empty.registerAll registrations).Records registrations)
    ∧ ∀ registrations, (standard.registerAll registrations).Records (standardRegistrations ++ registrations) :=
  ⟨fun registrations => (holds_empty.registerAll registrations).records,
    fun registrations => (holds_standard.registerAll registrations).records⟩

/-- Only the case of ASCII letters does not count. -/
example : SameLanguage "JScript" "jSCRIPT" ∧ ¬ SameLanguage "\u00c9" "\u00e9" := by decide

end Registry

end ScriptHost
