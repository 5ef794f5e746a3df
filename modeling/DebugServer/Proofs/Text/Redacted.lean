import Mathlib.Data.List.Count
import DebugServer.Proofs.Text.Hexadecimal
import DebugServer.Text.Quoted
import DebugServer.Text.Redacted

/-!
# What redaction hides

A quoted text without double quotes disappears from a message. One with double quotes does not: its
quotes are escaped by a backslash, which redaction does not look at, so it pairs them with those
around the text.
-/

namespace DebugServer.Text

section

variable {sep : Char} {s before after : List Char}

theorem splitFirst_of_notMem (h : sep ∉ s) : splitFirst sep s = none := by
  cases hs : splitFirst sep s with
  | none => rfl
  | some parts =>
    rw [eq_append_of_splitFirst hs] at h
    simp at h

theorem splitFirst_append (h : sep ∉ before) :
    splitFirst sep (before ++ sep :: after) = some (before, after) := by
  induction before with
  | nil => simp [splitFirst]
  | cons c rest ih =>
    rw [List.mem_cons, not_or] at h
    simp [splitFirst, Ne.symm h.1, ih h.2]

theorem notMem_of_splitFirst (h : splitFirst sep s = some (before, after)) : sep ∉ before := by
  induction s generalizing before with
  | nil => cases h
  | cons c rest ih =>
    unfold splitFirst at h
    split at h
    · simp only [Option.some.injEq, Prod.mk.injEq] at h
      simp [← h.1]
    · rename_i hc
      obtain ⟨⟨front, back⟩, hrest, hparts⟩ := Option.map_eq_some_iff.mp h
      simp only [Prod.mk.injEq] at hparts
      obtain ⟨rfl, rfl⟩ := hparts
      rw [List.mem_cons, not_or]
      exact ⟨Ne.symm hc, ih hrest⟩

end

theorem redactQuotes_of_notMem {s : List Char} (h : '"' ∉ s) : redactQuotes s = (s, true) := by
  unfold redactQuotes
  split
  · rfl
  · rename_i hs
    rw [splitFirst_of_notMem h] at hs
    cases hs

theorem redactQuotes_pair {before inner : List Char} (hbefore : '"' ∉ before)
    (hinner : '"' ∉ inner) (after : List Char) :
    redactQuotes (before ++ '"' :: (inner ++ '"' :: after)) =
      (before ++ '"' :: mark ++ '"' :: (redactQuotes after).1, (redactQuotes after).2) := by
  rw [redactQuotes]
  split
  · rename_i hs
    rw [splitFirst_append hbefore] at hs
    cases hs
  · rename_i hs
    rw [splitFirst_append hbefore, Option.some.injEq, Prod.mk.injEq] at hs
    obtain ⟨rfl, rfl⟩ := hs
    split
    · rename_i hs
      rw [splitFirst_append hinner] at hs
      cases hs
    · rename_i hs
      rw [splitFirst_append hinner, Option.some.injEq, Prod.mk.injEq] at hs
      obtain ⟨rfl, rfl⟩ := hs
      rfl

theorem count_redactQuotes (s : List Char) : (redactQuotes s).1.count '"' = s.count '"' := by
  fun_induction redactQuotes s with
  | case1 => rfl
  | case2 s before rest hopening hclosing => rw [eq_append_of_splitFirst hopening]
  | case3 s before rest hopening inner after hclosing text paired hrest ih =>
    have hmark : mark.count '"' = 0 := by decide
    have hinner := List.count_eq_zero.mpr (notMem_of_splitFirst hclosing)
    rw [hrest] at ih
    rw [eq_append_of_splitFirst hopening, eq_append_of_splitFirst hclosing]
    simp only [List.count_append, List.count_cons_self, hmark, hinner, ih]
    omega

theorem redactFirstTicks_of_notMem {s : List Char} (h : '\x60' ∉ s) : redactFirstTicks s = s := by
  simp [redactFirstTicks, splitFirst_of_notMem h]

/-- Backticks are left where they have been redacted. -/
theorem redactFirstTicks_cases (s : List Char) :
    redactFirstTicks s = s ∨ '\x60' ∈ redactFirstTicks s := by
  unfold redactFirstTicks
  split
  · exact .inl rfl
  · split
    · exact .inl rfl
    · right
      simp

theorem quote_notMem_hex (n : Nat) : '"' ∉ hex n := by
  intro h
  exact ne_of_isHexDigit (isHexDigit_of_mem_hex h) (by decide) rfl

theorem quote_mem_quotedChar {c : Char} : '"' ∈ quotedChar c ↔ c = '"' := by
  by_cases hc : c = '"'
  · subst hc
    decide
  · rw [iff_false_right hc]
    unfold quotedChar
    rw [if_neg hc]
    split
    · decide
    split
    · decide
    split
    · decide
    split
    · decide
    split
    · decide
    split
    · rw [List.mem_singleton]
      exact Ne.symm hc
    · simp [quote_notMem_hex]

theorem quote_mem_flatMap_quotedChar {s : List Char} : '"' ∈ s.flatMap quotedChar ↔ '"' ∈ s := by
  simp [List.mem_flatMap, quote_mem_quotedChar]

/-- A text that redaction leaves as it is. -/
def Plain (s : String) : Prop :=
  '"' ∉ s.toList ∧ '\x60' ∉ s.toList

instance (s : String) : Decidable (Plain s) :=
  inferInstanceAs (Decidable (_ ∧ _))

theorem Plain.append {s t : String} (hs : Plain s) (ht : Plain t) : Plain (s ++ t) := by
  simp [Plain, hs.1, hs.2, ht.1, ht.2]

section

variable {lead tail s t : String}

theorem toList_quoted_between :
    (lead ++ quoted s ++ tail).toList =
      lead.toList ++ '"' :: (s.toList.flatMap quotedChar ++ '"' :: tail.toList) := by
  simp [quoted]

theorem redactMessage_quoted (hlead : Plain lead) (htail : Plain tail) (hs : '"' ∉ s.toList) :
    redactMessage (lead ++ quoted s ++ tail) =
      String.ofList (lead.toList ++ '"' :: mark ++ '"' :: tail.toList) := by
  have hbody : '"' ∉ s.toList.flatMap quotedChar := mt quote_mem_flatMap_quotedChar.mp hs
  have hmark : '\x60' ∉ mark := by decide
  have htick : '\x60' ∉ lead.toList ++ '"' :: mark ++ '"' :: tail.toList := by
    simp [hlead.2, htail.2, hmark]
  simp only [redactMessage, toList_quoted_between, redactQuotes_pair hlead.1 hbody,
    redactQuotes_of_notMem htail.1, if_true, redactFirstTicks_of_notMem htick]

/-- Of two messages that differ in a quoted text, one without double quotes, redaction makes the
same message exactly if the other text has none either. -/
theorem redactMessage_quoted_eq_iff (hlead : Plain lead) (htail : Plain tail)
    (hs : '"' ∉ s.toList) :
    redactMessage (lead ++ quoted t ++ tail) = redactMessage (lead ++ quoted s ++ tail) ↔
      '"' ∉ t.toList := by
  have hplain := redactMessage_quoted hlead htail hs
  constructor
  · intro heq ht
    let text := (redactQuotes (lead ++ quoted t ++ tail).toList).1
    -- Each quote is still there, and those of the text come on top of the two around it.
    have hcount : 2 < text.count '"' := by
      have hbody := List.count_pos_iff.mpr (quote_mem_flatMap_quotedChar.mpr ht)
      simp only [text, count_redactQuotes, toList_quoted_between, List.count_append,
        List.count_cons_self]
      omega
    have hresult : (redactMessage (lead ++ quoted t ++ tail)).toList = text ∨
        '\x60' ∈ (redactMessage (lead ++ quoted t ++ tail)).toList := by
      simp only [redactMessage, String.toList_ofList]
      split
      · exact redactFirstTicks_cases text
      · exact .inl rfl
    rw [heq, hplain, String.toList_ofList] at hresult
    rcases hresult with hsame | htick
    · rw [← hsame] at hcount
      have hmark : mark.count '"' = 0 := by decide
      simp [List.count_eq_zero.mpr hlead.1, List.count_eq_zero.mpr htail.1, hmark] at hcount
    · have hmark : '\x60' ∉ mark := by decide
      simp [hlead.2, htail.2, hmark] at htick
  · intro ht
    rw [hplain, redactMessage_quoted hlead htail ht]

end

end DebugServer.Text
