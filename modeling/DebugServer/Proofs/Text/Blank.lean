import Mathlib.Data.List.TakeWhile
import DebugServer.Text.Blank

/-!
# Trimming

A trimmed text is what is left of a text without some characters at its ends; if none of its own
characters may be dropped, it is found between any that may.
-/

namespace DebugServer.Text

theorem isBlank_of_isDigit {c : Char} (h : c.isDigit = true) : isBlank c = false := by
  simp only [Char.isDigit, Bool.and_eq_true, decide_eq_true_eq, ge_iff_le,
    UInt32.le_iff_toNat_le] at h
  simp [isBlank, UInt32.le_iff_toNat_le, ← UInt32.toNat_inj]
  simp at h
  omega

section

variable {p : Char → Bool} {s t : List Char}

theorem trimEnd_append_of_forall (s : List Char) (ht : ∀ c ∈ t, p c = true) :
    trimEnd p (s ++ t) = trimEnd p s := by
  have hdropped : ∀ c ∈ t.reverse, p c = true := fun c hc => ht c (List.mem_reverse.mp hc)
  rw [trimEnd, List.reverse_append, List.dropWhile_append_of_pos hdropped, trimEnd]

theorem dropWhile_of_forall (hs : ∀ c ∈ s, p c = false) : s.dropWhile p = s := by
  cases s with
  | nil => rfl
  | cons c rest => simp [hs c List.mem_cons_self]

theorem trimEnd_of_forall (hs : ∀ c ∈ s, p c = false) : trimEnd p s = s := by
  have hkept : ∀ c ∈ s.reverse, p c = false := fun c hc => hs c (List.mem_reverse.mp hc)
  rw [trimEnd, dropWhile_of_forall hkept, List.reverse_reverse]

theorem trimEnd_append_cons {c : Char} (hc : p c = false) (s t : List Char) :
    trimEnd p (s ++ c :: t) = s ++ c :: trimEnd p t := by
  simp only [trimEnd, List.reverse_append, List.reverse_cons, List.append_assoc,
    List.dropWhile_append]
  split
  · rename_i hnil
    rw [List.isEmpty_iff] at hnil
    simp [hc, hnil]
  · simp

theorem trimEnd_eq_nil_iff : trimEnd p s = [] ↔ ∀ c ∈ s, p c = true := by
  simp [trimEnd, List.dropWhile_eq_nil_iff]

theorem exists_append_trimEnd (p : Char → Bool) (s : List Char) :
    ∃ ends, s = trimEnd p s ++ ends ∧ ∀ c ∈ ends, p c = true := by
  refine ⟨(s.reverse.takeWhile p).reverse, ?_, ?_⟩
  · rw [trimEnd, ← List.reverse_append, List.takeWhile_append_dropWhile, List.reverse_reverse]
  · intro c hc
    exact List.mem_takeWhile_imp (List.mem_reverse.mp hc)

end

variable {s t core : List Char}

theorem trim_append_of_forall (s : List Char) (ht : ∀ c ∈ t, isBlank c = true) :
    trim (s ++ t) = trim s := by
  rw [trim, trim, List.dropWhile_append]
  split
  · rename_i hnil
    rw [List.isEmpty_iff.mp hnil, List.dropWhile_eq_nil_iff.mpr ht]
  · exact trimEnd_append_of_forall _ ht

theorem trim_between (hs : ∀ c ∈ s, isBlank c = true) (hcore : ∀ c ∈ core, isBlank c = false)
    (ht : ∀ c ∈ t, isBlank c = true) : trim (s ++ core ++ t) = core := by
  rw [trim_append_of_forall _ ht, trim, List.dropWhile_append_of_pos hs,
    dropWhile_of_forall hcore, trimEnd_of_forall hcore]

theorem exists_append_trim (s : List Char) :
    ∃ before after, s = before ++ trim s ++ after ∧ ∀ c ∈ before ++ after, isBlank c = true := by
  obtain ⟨after, hafter, hblank⟩ := exists_append_trimEnd isBlank (s.dropWhile isBlank)
  refine ⟨s.takeWhile isBlank, after, ?_, ?_⟩
  · rw [trim, List.append_assoc, ← hafter, List.takeWhile_append_dropWhile]
  · rw [List.forall_mem_append]
    exact ⟨fun c hc => List.mem_takeWhile_imp hc, hblank⟩

end DebugServer.Text
