import DebugServer.Decimal.Natural

/-!
# Writing and reading the digits of a number

Every digit of a number is one of its base. The decimal digits are read as the number if it fits,
and nothing else is read but a plus sign before them.
-/

namespace DebugServer.Decimal

theorem exists_digit_of_mem_toDigits {b n : Nat} {c : Char} (hb : 1 < b)
    (h : c ∈ Nat.toDigits b n) : ∃ d < b, c = Nat.digitChar d := by
  induction n using Nat.strongRecOn with
  | ind n ih =>
    by_cases hn : n < b
    · rw [Nat.toDigits_of_lt_base hn, List.mem_singleton] at h
      exact ⟨n, hn, h⟩
    · rw [Nat.toDigits_of_base_le hb (by omega), List.mem_append, List.mem_singleton] at h
      rcases h with hfront | hlast
      · exact ih _ (Nat.div_lt_self (by omega) hb) hfront
      · exact ⟨_, Nat.mod_lt n (by omega), hlast⟩

theorem digit?_of_isDigit {c : Char} (h : c.isDigit = true) :
    digit? c = some (c.toNat - '0'.toNat) := by
  simp only [Char.isDigit, Bool.and_eq_true, decide_eq_true_eq] at h
  have hrange : '0' ≤ c ∧ c ≤ '9' := h
  simp [digit?, hrange]

theorem isDigit_of_digit? {c : Char} {d : Nat} (h : digit? c = some d) : c.isDigit = true := by
  unfold digit? at h
  split at h
  · rename_i hrange
    have hrange : '0' ≤ c ∧ c ≤ '9' := by simpa using hrange
    simp only [Char.isDigit, Bool.and_eq_true, decide_eq_true_eq]
    exact hrange
  · cases h

theorem le_ofDigitChars (ds : List Char) (n : Nat) : n ≤ Nat.ofDigitChars 10 ds n := by
  induction ds generalizing n with
  | nil => simp
  | cons c rest ih =>
    rw [Nat.ofDigitChars_cons]
    exact Nat.le_trans (by omega) (ih _)

theorem readDigits_eq {ds : List Char} {n : Nat} (hdigits : ∀ c ∈ ds, c.isDigit = true)
    (hlimit : Nat.ofDigitChars 10 ds n ≤ naturalLimit) :
    readDigits n ds = .ok (Nat.ofDigitChars 10 ds n) := by
  induction ds generalizing n with
  | nil => rfl
  | cons c rest ih =>
    rw [Nat.ofDigitChars_cons] at hlimit ⊢
    have hfits := Nat.le_trans (le_ofDigitChars rest _) hlimit
    have hrest := ih (fun d hd => hdigits d (List.mem_cons_of_mem c hd)) hlimit
    simp only [readDigits, digit?_of_isDigit (hdigits c List.mem_cons_self), Nat.mul_comm n 10]
    rw [if_neg (Nat.not_lt.mpr hfits), hrest]

theorem readDigits_eq_ok_iff {ds : List Char} {n v : Nat} (hn : n ≤ naturalLimit) :
    readDigits n ds = .ok v ↔
      (∀ c ∈ ds, c.isDigit = true) ∧ Nat.ofDigitChars 10 ds n = v ∧ v ≤ naturalLimit := by
  constructor
  · intro h
    induction ds generalizing n with
    | nil =>
      cases h
      exact ⟨nofun, rfl, hn⟩
    | cons c rest ih =>
      unfold readDigits at h
      split at h
      · cases h
      rename_i d hd
      split at h
      · cases h
      rename_i hroom
      have hdigit := isDigit_of_digit? hd
      obtain ⟨hdigits, hvalue, hlimit⟩ := ih (Nat.not_lt.mp hroom) h
      rw [digit?_of_isDigit hdigit] at hd
      cases hd
      refine ⟨List.forall_mem_cons.mpr ⟨hdigit, hdigits⟩, ?_, hlimit⟩
      rw [Nat.ofDigitChars_cons, Nat.mul_comm 10 n, hvalue]
  · rintro ⟨hdigits, rfl, hlimit⟩
    exact readDigits_eq hdigits hlimit

theorem readNatural_eq_ok_iff {s : List Char} {n : Nat} :
    readNatural s = .ok n ↔ ∃ plus digits, s = plus ++ digits ∧ (plus = [] ∨ plus = ['+']) ∧
      digits ≠ [] ∧ (∀ c ∈ digits, c.isDigit = true) ∧ Nat.ofDigitChars 10 digits 0 = n ∧
      n ≤ naturalLimit := by
  have hzero : 0 ≤ naturalLimit := Nat.zero_le _
  constructor
  · intro h
    unfold readNatural at h
    split at h
    · cases h
    · cases h
    · rename_i rest hrest
      exact ⟨['+'], rest, rfl, .inr rfl, hrest, (readDigits_eq_ok_iff hzero).mp h⟩
    · rename_i hnil _ _
      exact ⟨[], s, rfl, .inl rfl, hnil, (readDigits_eq_ok_iff hzero).mp h⟩
  · rintro ⟨plus, digits, rfl, hplus, hdigits, hall, hvalue⟩
    have hread := (readDigits_eq_ok_iff hzero).mpr ⟨hall, hvalue⟩
    rcases hplus with rfl | rfl
    · have hnone : '+' ∉ digits := fun h => absurd (hall '+' h) (by decide)
      unfold readNatural
      split <;> simp_all
    · rw [List.singleton_append, readNatural]
      · exact hread
      · exact hdigits

end DebugServer.Decimal
