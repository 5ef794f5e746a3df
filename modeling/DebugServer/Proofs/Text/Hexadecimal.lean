import Mathlib.Algebra.Group.Nat.Defs
import DebugServer.Proofs.Decimal.Natural
import DebugServer.Text.Hexadecimal
import DebugServer.Text.Quoted

/-!
# Reading back hexadecimal digits

The digits that a number is written with have its value, with zeros before them or not. A code
point that is padded to a fixed number of digits is therefore read as its character, and what
follows the digits is left alone.
-/

namespace DebugServer.Text

/-- The number that hexadecimal digits stand for. -/
def hexValue (ds : List Char) : Nat :=
  ds.foldl (fun v d => v * 16 + hexDigitValue d) 0

variable {c d : Char} {n width : Nat} {s rest : List Char}

theorem ne_of_isHexDigit (hc : isHexDigit c = true) (hd : isHexDigit d = false) : c ≠ d := by
  rintro rfl
  exact absurd hc (Bool.eq_false_iff.mp hd)

theorem toNat_of_isHexDigit (h : isHexDigit d = true) :
    '0'.toNat ≤ d.toNat ∧ d.toNat ≤ 'f'.toNat := by
  simp only [isHexDigit, Bool.or_eq_true, Bool.and_eq_true, decide_eq_true_eq] at h
  rcases h with (⟨hle, hge⟩ | ⟨hle, hge⟩) | ⟨hle, hge⟩
  · exact ⟨hle, Nat.le_trans hge (by decide)⟩
  · exact ⟨Nat.le_trans (by decide) hle, hge⟩
  · exact ⟨Nat.le_trans (by decide) hle, Nat.le_trans hge (by decide)⟩

theorem hexValue_concat (ds : List Char) (d : Char) :
    hexValue (ds ++ [d]) = hexValue ds * 16 + hexDigitValue d := by
  simp [hexValue]

theorem isHexDigit_digitChar (hn : n < 16) : isHexDigit (Nat.digitChar n) = true := by
  have hall : ∀ n < 16, isHexDigit (Nat.digitChar n) = true := by decide
  exact hall n hn

theorem hexDigitValue_digitChar (hn : n < 16) : hexDigitValue (Nat.digitChar n) = n := by
  have hall : ∀ n < 16, hexDigitValue (Nat.digitChar n) = n := by decide
  exact hall n hn

theorem isHexDigit_of_mem_hex (hd : d ∈ hex n) : isHexDigit d = true := by
  obtain ⟨k, hk, rfl⟩ := Decimal.exists_digit_of_mem_toDigits (by decide) hd
  exact isHexDigit_digitChar hk

theorem hexValue_hex (n : Nat) : hexValue (hex n) = n := by
  induction n using Nat.strongRecOn with
  | ind n ih =>
    have hbase : 1 < 16 := by decide
    by_cases hn : n < 16
    · rw [hex, Nat.toDigits_of_lt_base hn]
      simp [hexValue, hexDigitValue_digitChar hn]
    · have hfront : hexValue (Nat.toDigits 16 (n / 16)) = n / 16 :=
        ih _ (Nat.div_lt_self (by omega) hbase)
      have hlast : n % 16 < 16 := Nat.mod_lt n (by omega)
      rw [hex, Nat.toDigits_of_base_le hbase (Nat.not_lt.mp hn), hexValue_concat, hfront,
        hexDigitValue_digitChar hlast]
      omega

theorem isHexDigit_of_mem_hexPadded (hd : d ∈ hexPadded width n) : isHexDigit d = true := by
  rcases List.mem_append.mp hd with hzero | hdigit
  · rw [List.eq_of_mem_replicate hzero]
    decide
  · exact isHexDigit_of_mem_hex hdigit

theorem hexValue_hexPadded (width n : Nat) : hexValue (hexPadded width n) = n := by
  have hzeros (k : Nat) (ds : List Char) :
      hexValue (List.replicate k '0' ++ ds) = hexValue ds := by
    induction k with
    | zero => rfl
    | succ k ih =>
      rw [List.replicate_succ, List.cons_append]
      exact ih
  rw [hexPadded, List.leftpad, hzeros, hexValue_hex]

theorem length_hexPadded (hwidth : 0 < width) (hn : n < 16 ^ width) :
    (hexPadded width n).length = width := by
  have hlength : (hex n).length ≤ width :=
    (Nat.length_toDigits_le_iff (by decide) hwidth).mpr hn
  rw [hexPadded, List.leftpad, List.length_append, List.length_replicate]
  omega

theorem eq_drop_of_codePoint? (h : codePoint? width s = some (c, rest)) : rest = s.drop width := by
  unfold codePoint? at h
  dsimp only at h
  split at h
  · split at h
    · cases h
      rfl
    · cases h
  · cases h

theorem codePoint?_hexPadded (hwidth : 0 < width) (hc : c.toNat < 16 ^ width) (rest : List Char) :
    codePoint? width (hexPadded width c.toNat ++ rest) = some (c, rest) := by
  have hlength := length_hexPadded hwidth hc
  have hdigits : (hexPadded width c.toNat).all isHexDigit = true :=
    List.all_eq_true.mpr fun _ hd => isHexDigit_of_mem_hexPadded hd
  have hvalue := hexValue_hexPadded width c.toNat
  have hvalid : c.toNat < 0xD800 ∨ 0xDFFF < c.toNat ∧ c.toNat < 0x110000 := c.valid
  unfold hexValue at hvalue
  simp [codePoint?, List.take_left' hlength, List.drop_left' hlength, hlength, hdigits, hvalue,
    hvalid]

end DebugServer.Text
