import Mathlib.Tactic.NormNum
import DebugServer.Text.Utf8

/-!
# Decoding what was encoded

The bytes of a character are one unit, wherever they stand, so decoding gives back every text. A
unit that is a character has no other bytes, so nothing else is decoded.
-/

namespace DebugServer.Text

section

variable {a b c d : UInt8}

theorem isContinuation_iff : isContinuation b = true ↔ 0x80 ≤ b.toNat ∧ b.toNat ≤ 0xBF := by
  simp [isContinuation, UInt8.le_iff_toNat_le]

theorem units_one (rest : List UInt8) (ha : a.toNat ≤ 0x7F) :
    units (a :: rest) = some (Char.ofNat a.toNat) :: units rest := by
  have h : a < 0x80 := UInt8.lt_iff_toNat_lt.mpr (Nat.lt_succ_of_le ha)
  rw [units.eq_def]
  simp only [h, if_true]

theorem units_two (rest : List UInt8) (ha : 0xC2 ≤ a.toNat ∧ a.toNat ≤ 0xDF)
    (hb : 0x80 ≤ b.toNat ∧ b.toNat ≤ 0xBF) :
    units (a :: b :: rest) =
      some (Char.ofNat (a.toNat % 32 * 64 + b.toNat % 64)) :: units rest := by
  have h1 : ¬ a < 0x80 := by
    simp only [UInt8.lt_iff_toNat_lt, UInt8.reduceToNat]
    omega
  have h2 : 0xC2 ≤ a ∧ a ≤ 0xDF := by simpa [UInt8.le_iff_toNat_le] using ha
  rw [units.eq_def]
  simp [h1, h2, isContinuation_iff.mpr hb, tailBits]

theorem units_three (rest : List UInt8) (ha : 0xE0 ≤ a.toNat ∧ a.toNat ≤ 0xEF)
    (hb : secondOfThree a b = true) (hc : 0x80 ≤ c.toNat ∧ c.toNat ≤ 0xBF) :
    units (a :: b :: c :: rest) =
      some (Char.ofNat ((a.toNat % 16 * 64 + b.toNat % 64) * 64 + c.toNat % 64)) :: units rest := by
  have h1 : ¬ a < 0x80 := by
    simp only [UInt8.lt_iff_toNat_lt, UInt8.reduceToNat]
    omega
  have h2 : ¬ (0xC2 ≤ a ∧ a ≤ 0xDF) := by
    simp only [UInt8.le_iff_toNat_le, UInt8.reduceToNat]
    omega
  have h3 : 0xE0 ≤ a ∧ a ≤ 0xEF := by simpa [UInt8.le_iff_toNat_le] using ha
  rw [units.eq_def]
  simp [h1, h2, h3, hb, isContinuation_iff.mpr hc, tailBits]

theorem units_four (rest : List UInt8) (ha : 0xF0 ≤ a.toNat ∧ a.toNat ≤ 0xF4)
    (hb : secondOfFour a b = true) (hc : 0x80 ≤ c.toNat ∧ c.toNat ≤ 0xBF)
    (hd : 0x80 ≤ d.toNat ∧ d.toNat ≤ 0xBF) :
    units (a :: b :: c :: d :: rest) =
      some (Char.ofNat (((a.toNat % 8 * 64 + b.toNat % 64) * 64 + c.toNat % 64) * 64 +
        d.toNat % 64)) :: units rest := by
  have h1 : ¬ a < 0x80 := by
    simp only [UInt8.lt_iff_toNat_lt, UInt8.reduceToNat]
    omega
  have h2 : ¬ (0xC2 ≤ a ∧ a ≤ 0xDF) := by
    simp only [UInt8.le_iff_toNat_le, UInt8.reduceToNat]
    omega
  have h3 : ¬ (0xE0 ≤ a ∧ a ≤ 0xEF) := by
    simp only [UInt8.le_iff_toNat_le, UInt8.reduceToNat]
    omega
  have h4 : 0xF0 ≤ a ∧ a ≤ 0xF4 := by simpa [UInt8.le_iff_toNat_le] using ha
  rw [units.eq_def]
  simp [h1, h2, h3, h4, hb, isContinuation_iff.mpr hc, isContinuation_iff.mpr hd, tailBits]

end

theorem secondOfThree_iff {a b : UInt8} : secondOfThree a b = true ↔
    0x80 ≤ b.toNat ∧ b.toNat ≤ 0xBF ∧ (a.toNat = 0xE0 → 0xA0 ≤ b.toNat) ∧
      (a.toNat = 0xED → b.toNat ≤ 0x9F) := by
  simp only [secondOfThree, ← UInt8.toNat_inj, UInt8.reduceToNat]
  split
  · simp [UInt8.le_iff_toNat_le]; omega
  split
  · simp [UInt8.le_iff_toNat_le]; omega
  · rw [isContinuation_iff]; omega

theorem secondOfFour_iff {a b : UInt8} : secondOfFour a b = true ↔
    0x80 ≤ b.toNat ∧ b.toNat ≤ 0xBF ∧ (a.toNat = 0xF0 → 0x90 ≤ b.toNat) ∧
      (a.toNat = 0xF4 → b.toNat ≤ 0x8F) := by
  simp only [secondOfFour, ← UInt8.toNat_inj, UInt8.reduceToNat]
  split
  · simp [UInt8.le_iff_toNat_le]; omega
  split
  · simp [UInt8.le_iff_toNat_le]; omega
  · rw [isContinuation_iff]; omega

/-- The ranges of second bytes leave out overlong forms and surrogates, which no character has. -/
theorem units_utf8EncodeChar (c : Char) (rest : List UInt8) :
    units (String.utf8EncodeChar c ++ rest) = some c :: units rest := by
  have hvalid := c.valid
  have hc : Char.ofNat c.val.toNat = c := Char.ofNat_toNat c
  simp only [UInt32.isValidChar, Nat.isValidChar] at hvalid
  have hbyte : ∀ n < 256, (UInt8.ofNat n).toNat = n := fun n hn => by
    simpa using Nat.mod_eq_of_lt hn
  unfold String.utf8EncodeChar
  dsimp only
  generalize c.val.toNat = v at hvalid hc
  split
  · rw [List.cons_append, List.nil_append, units_one rest (by rw [hbyte]; all_goals omega),
      hbyte v (by omega), hc]
  split
  · have h0 := hbyte (v / 64 % 32 + 192) (by omega)
    have h1 := hbyte (v % 64 + 128) (by omega)
    have hv : (v / 64 % 32 + 192) % 32 * 64 + (v % 64 + 128) % 64 = v := by omega
    simp only [List.cons_append, List.nil_append]
    rw [units_two rest (by omega) (by omega), h0, h1, hv, hc]
  split
  · have h0 := hbyte (v / 4096 % 16 + 224) (by omega)
    have h1 := hbyte (v / 64 % 64 + 128) (by omega)
    have h2 := hbyte (v % 64 + 128) (by omega)
    have hv : ((v / 4096 % 16 + 224) % 16 * 64 + (v / 64 % 64 + 128) % 64) * 64 +
        (v % 64 + 128) % 64 = v := by omega
    simp only [List.cons_append, List.nil_append]
    rw [units_three rest (by omega) (secondOfThree_iff.mpr (by omega)) (by omega), h0, h1, h2, hv,
      hc]
  · have h0 := hbyte (v / 262144 % 8 + 240) (by omega)
    have h1 := hbyte (v / 4096 % 64 + 128) (by omega)
    have h2 := hbyte (v / 64 % 64 + 128) (by omega)
    have h3 := hbyte (v % 64 + 128) (by omega)
    have hv : (((v / 262144 % 8 + 240) % 8 * 64 + (v / 4096 % 64 + 128) % 64) * 64 +
        (v / 64 % 64 + 128) % 64) * 64 + (v % 64 + 128) % 64 = v := by omega
    simp only [List.cons_append, List.nil_append]
    rw [units_four rest (by omega) (secondOfFour_iff.mpr (by omega)) (by omega) (by omega), h0, h1,
      h2, h3, hv, hc]

theorem units_encode (s : List Char) : units (encode s) = s.map some := by
  induction s with
  | nil => simp [encode, units]
  | cons c rest ih =>
    simp only [encode, List.flatMap_cons, List.map_cons] at ih ⊢
    rw [units_utf8EncodeChar, ih]

theorem decode?_encode (s : List Char) : decode? (encode s) = some s := by
  rw [decode?, units_encode]
  induction s with
  | nil => rfl
  | cons c rest ih => simp_all

theorem length_encode_le (s : List Char) : (encode s).length ≤ 4 * s.length := by
  induction s with
  | nil => simp [encode]
  | cons c rest ih =>
    have hc := c.utf8Size_le_four
    simp only [encode, List.flatMap_cons, List.length_append, String.length_utf8EncodeChar,
      List.length_cons] at ih ⊢
    omega

/-- A byte below 128 stands for a character of its own. -/
theorem toNat_of_mem_utf8EncodeChar {c : Char} {b : UInt8} (h : b ∈ String.utf8EncodeChar c) :
    b.toNat = c.toNat ∨ 0x80 ≤ b.toNat := by
  unfold String.utf8EncodeChar at h
  simp only [Char.toNat]
  dsimp only at h
  generalize c.val.toNat = v at h ⊢
  split at h
  · simp only [List.mem_singleton] at h
    subst h
    left
    simp
    omega
  right
  split at h
  · simp only [List.mem_cons, List.not_mem_nil, or_false] at h
    rcases h with rfl | rfl <;> (rw [UInt8.toNat_ofNat']; omega)
  split at h
  · simp only [List.mem_cons, List.not_mem_nil, or_false] at h
    rcases h with rfl | rfl | rfl <;> (rw [UInt8.toNat_ofNat']; omega)
  · simp only [List.mem_cons, List.not_mem_nil, or_false] at h
    rcases h with rfl | rfl | rfl | rfl <;> (rw [UInt8.toNat_ofNat']; omega)

theorem lineFeed_notMem_encode {s : List Char} (h : '\n' ∉ s) : 0x0A ∉ encode s := by
  intro hmem
  obtain ⟨c, hc, hbyte⟩ := List.mem_flatMap.mp hmem
  rcases toNat_of_mem_utf8EncodeChar hbyte with hown | hlarge
  · have heq : c = '\n' := Char.toNat_inj.mp hown.symm
    exact h (heq ▸ hc)
  · simp at hlarge

/-! ### Nothing else is decoded -/

theorem toNat_ofNat {v : Nat} (h : v.isValidChar) : (Char.ofNat v).val.toNat = v := by
  rw [Char.ofNat, dif_pos h]
  rfl

section

variable {a b c d : UInt8}

theorem utf8EncodeChar_one (ha : a.toNat ≤ 0x7F) :
    String.utf8EncodeChar (Char.ofNat a.toNat) = [a] := by
  unfold String.utf8EncodeChar
  rw [toNat_ofNat (.inl (by omega))]
  simp [ha]

theorem utf8EncodeChar_two (ha : 0xC2 ≤ a.toNat ∧ a.toNat ≤ 0xDF)
    (hb : 0x80 ≤ b.toNat ∧ b.toNat ≤ 0xBF) :
    String.utf8EncodeChar (Char.ofNat (a.toNat % 32 * 64 + b.toNat % 64)) = [a, b] := by
  unfold String.utf8EncodeChar
  rw [toNat_ofNat (.inl (by omega))]
  dsimp only
  rw [if_neg (by omega), if_pos (by omega)]
  simp only [List.cons.injEq, and_true, ← UInt8.toNat_inj, UInt8.toNat_ofNat']
  omega

theorem utf8EncodeChar_three (ha : 0xE0 ≤ a.toNat ∧ a.toNat ≤ 0xEF)
    (hb : secondOfThree a b = true) (hc : 0x80 ≤ c.toNat ∧ c.toNat ≤ 0xBF) :
    String.utf8EncodeChar
      (Char.ofNat ((a.toNat % 16 * 64 + b.toNat % 64) * 64 + c.toNat % 64)) = [a, b, c] := by
  have hb := secondOfThree_iff.mp hb
  unfold String.utf8EncodeChar
  rw [toNat_ofNat (by simp only [Nat.isValidChar]; omega)]
  dsimp only
  rw [if_neg (by omega), if_neg (by omega), if_pos (by omega)]
  simp only [List.cons.injEq, and_true, ← UInt8.toNat_inj, UInt8.toNat_ofNat']
  omega

theorem utf8EncodeChar_four (ha : 0xF0 ≤ a.toNat ∧ a.toNat ≤ 0xF4)
    (hb : secondOfFour a b = true) (hc : 0x80 ≤ c.toNat ∧ c.toNat ≤ 0xBF)
    (hd : 0x80 ≤ d.toNat ∧ d.toNat ≤ 0xBF) :
    String.utf8EncodeChar
      (Char.ofNat (((a.toNat % 8 * 64 + b.toNat % 64) * 64 + c.toNat % 64) * 64 + d.toNat % 64)) =
        [a, b, c, d] := by
  have hb := secondOfFour_iff.mp hb
  unfold String.utf8EncodeChar
  rw [toNat_ofNat (by simp only [Nat.isValidChar]; omega)]
  dsimp only
  rw [if_neg (by omega), if_neg (by omega), if_neg (by omega)]
  simp only [List.cons.injEq, and_true, ← UInt8.toNat_inj, UInt8.toNat_ofNat']
  omega

end

/-- A unit that is a character has the bytes of this character. -/
theorem exists_of_units_eq_cons {bytes : List UInt8} {c : Char} {later : List (Option Char)}
    (h : units bytes = some c :: later) :
    ∃ rest, bytes = String.utf8EncodeChar c ++ rest ∧ units rest = later := by
  rw [units.eq_def] at h
  split at h
  case h_1 => cases h
  rename_i a rest
  split at h
  · rename_i ha
    have ha : a.toNat ≤ 0x7F := Nat.le_of_lt_succ (UInt8.lt_iff_toNat_lt.mp ha)
    cases h
    exact ⟨rest, by rw [utf8EncodeChar_one ha]; rfl, rfl⟩
  split at h
  · rename_i ha
    have ha : 0xC2 ≤ a.toNat ∧ a.toNat ≤ 0xDF := by simpa [UInt8.le_iff_toNat_le] using ha
    split at h
    case h_2 => cases h
    split at h
    case isFalse => cases h
    rename_i b more hb
    cases h
    exact ⟨more, by rw [tailBits, utf8EncodeChar_two ha (isContinuation_iff.mp hb)]; rfl, rfl⟩
  split at h
  · rename_i ha
    have ha : 0xE0 ≤ a.toNat ∧ a.toNat ≤ 0xEF := by simpa [UInt8.le_iff_toNat_le] using ha
    split at h
    case h_2 => cases h
    split at h
    case isFalse => cases h
    split at h
    case h_2 => cases h
    split at h
    case isFalse => cases h
    rename_i _ b hb _ c more hc
    cases h
    refine ⟨more, ?_, rfl⟩
    rw [tailBits, tailBits, utf8EncodeChar_three ha hb (isContinuation_iff.mp hc)]
    rfl
  split at h
  · rename_i ha
    have ha : 0xF0 ≤ a.toNat ∧ a.toNat ≤ 0xF4 := by simpa [UInt8.le_iff_toNat_le] using ha
    split at h
    case h_2 => cases h
    split at h
    case isFalse => cases h
    split at h
    case h_2 => cases h
    split at h
    case isFalse => cases h
    split at h
    case h_2 => cases h
    split at h
    case isFalse => cases h
    rename_i _ b hb _ c hc _ d more hd
    cases h
    refine ⟨more, ?_, rfl⟩
    rw [tailBits, tailBits, tailBits, utf8EncodeChar_four ha hb (isContinuation_iff.mp hc)
      (isContinuation_iff.mp hd)]
    rfl
  · cases h

theorem eq_nil_of_units {bytes : List UInt8} (h : units bytes = []) : bytes = [] := by
  rw [units.eq_def] at h
  split at h
  · rfl
  · repeat' split at h
    all_goals cases h

theorem eq_map_of_mapM {units : List (Option Char)} {s : List Char}
    (h : units.mapM id = some s) : units = s.map some := by
  induction units generalizing s with
  | nil =>
    cases h
    rfl
  | cons unit later ih =>
    rw [List.mapM_cons] at h
    obtain ⟨c, hc, h⟩ := Option.bind_eq_some_iff.mp h
    obtain ⟨rest, hrest, h⟩ := Option.bind_eq_some_iff.mp h
    cases h
    cases hc
    rw [ih hrest]
    rfl

theorem eq_encode_of_units {bytes : List UInt8} {s : List Char} (h : units bytes = s.map some) :
    bytes = encode s := by
  induction s generalizing bytes with
  | nil => exact eq_nil_of_units h
  | cons c rest ih =>
    obtain ⟨later, rfl, hlater⟩ := exists_of_units_eq_cons h
    rw [ih hlater]
    rfl

/-- Bytes are decoded as the text that they encode, and only as this one. -/
theorem decode?_eq_some_iff {bytes : List UInt8} {s : List Char} :
    decode? bytes = some s ↔ bytes = encode s := by
  constructor
  · exact fun h => eq_encode_of_units (eq_map_of_mapM h)
  · rintro rfl
    exact decode?_encode s

end DebugServer.Text
