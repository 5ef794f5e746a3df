import Mathlib.Data.List.Basic
import DebugServer.Decimal.Layout
import DebugServer.Proofs.Decimal.Natural

/-!
# The characters of floating point text

A number is written with digits, a point, an exponent and signs, or as one of the words of its
layout. It is never written as nothing.
-/

namespace DebugServer.Decimal.Layout

def symbols : List Char :=
  "0123456789.e+-".toList

def words (layout : Layout) : List Char :=
  [layout.wholeSuffix, layout.nan, layout.infinity, layout.negativeInfinity].flatMap String.toList

/-- The characters that a layout has for numbers. -/
def alphabet (layout : Layout) : List Char :=
  symbols ++ layout.words

variable {layout : Layout} {ds : List Char}

theorem mem_alphabet {c : Char} (h : c ∈ symbols) : c ∈ layout.alphabet :=
  List.mem_append_left layout.words h

theorem word_subset {word : String}
    (h : word ∈ [layout.wholeSuffix, layout.nan, layout.infinity, layout.negativeInfinity]) :
    word.toList ⊆ layout.alphabet :=
  fun _ hc => List.mem_append_right symbols (List.mem_flatMap.mpr ⟨word, h, hc⟩)

theorem toDigits_subset (n : Nat) : Nat.toDigits 10 n ⊆ layout.alphabet := by
  intro c hc
  obtain ⟨d, hd, rfl⟩ := exists_digit_of_mem_toDigits (by decide) hc
  have hdigit : ∀ d < 10, Nat.digitChar d ∈ symbols := by decide
  exact mem_alphabet (hdigit d hd)

theorem replicate_subset (n : Nat) : List.replicate n '0' ⊆ layout.alphabet := by
  intro c hc
  rw [List.eq_of_mem_replicate hc]
  exact mem_alphabet (by decide)

theorem positional_subset (hds : ds ⊆ layout.alphabet) (point : Int) :
    layout.positional ds point ⊆ layout.alphabet := by
  have hpoint : '.' ∈ layout.alphabet := mem_alphabet (by decide)
  unfold positional
  split
  · have hzero : '0' ∈ layout.alphabet := mem_alphabet (by decide)
    simp only [List.cons_append, List.cons_subset, List.append_subset]
    exact ⟨hzero, hpoint, replicate_subset _, hds⟩
  split
  · simp only [List.append_subset]
    exact ⟨⟨hds, replicate_subset _⟩, word_subset List.mem_cons_self⟩
  · simp only [List.append_subset, List.cons_subset]
    exact ⟨List.Subset.trans (List.take_subset _ ds) hds, hpoint,
      List.Subset.trans (List.drop_subset _ ds) hds⟩

theorem scientific_subset (hds : ds ⊆ layout.alphabet) (e : Int) :
    layout.scientific ds e ⊆ layout.alphabet := by
  have hsymbol {c : Char} (hc : c ∈ symbols) : [c] ⊆ layout.alphabet :=
    List.cons_subset.mpr ⟨mem_alphabet hc, List.nil_subset _⟩
  have hsign : (if e < 0 then ['-'] else if layout.plus then ['+'] else []) ⊆ layout.alphabet := by
    split
    · exact hsymbol (by decide)
    split
    · exact hsymbol (by decide)
    · exact List.nil_subset _
  unfold scientific
  simp only [List.append_subset, List.cons_subset, List.leftpad]
  refine ⟨⟨?_, mem_alphabet (by decide), hsign⟩, replicate_subset _, toDigits_subset _⟩
  split
  · exact List.nil_subset _
  · exact hds
  · rw [List.cons_subset] at hds
    simp only [List.cons_subset]
    exact ⟨hds.1, mem_alphabet (by decide), hds.2⟩

theorem digits_subset (d : Digits) : layout.digits d ⊆ layout.alphabet := by
  simp only [digits]
  split
  · exact positional_subset (toDigits_subset _) _
  · exact scientific_subset (toDigits_subset _) _

theorem unsigned_subset (mantissa : Nat) (exponent : Int) (closeBelow : Bool) :
    layout.unsigned mantissa exponent closeBelow ⊆ layout.alphabet := by
  unfold unsigned
  split
  · exact positional_subset (toDigits_subset 0) 1
  · exact digits_subset _

theorem write_subset (layout : Layout) (bits : UInt64) :
    (layout.write bits).toList ⊆ layout.alphabet := by
  unfold write
  split
  · exact word_subset (by simp)
  · exact word_subset (by simp)
  · exact word_subset (by simp)
  · rw [String.toList_ofList, List.append_subset]
    refine ⟨?_, unsigned_subset _ _ _⟩
    split
    · exact List.cons_subset.mpr ⟨mem_alphabet (by decide), List.nil_subset _⟩
    · exact List.nil_subset _

theorem positional_ne_nil (hds : ds ≠ []) (point : Int) : layout.positional ds point ≠ [] := by
  unfold positional
  split
  · simp
  split
  · simp [hds]
  · simp

theorem unsigned_ne_nil (mantissa : Nat) (exponent : Int) (closeBelow : Bool) :
    layout.unsigned mantissa exponent closeBelow ≠ [] := by
  unfold unsigned
  split
  · exact positional_ne_nil (List.cons_ne_nil _ _) 1
  unfold digits
  dsimp only
  split
  · exact positional_ne_nil Nat.toDigits_ne_nil _
  · simp [scientific]

theorem write_ne_empty
    (h : "" ∉ [layout.nan, layout.infinity, layout.negativeInfinity]) (bits : UInt64) :
    layout.write bits ≠ "" := by
  simp only [List.mem_cons, List.not_mem_nil, or_false, not_or] at h
  obtain ⟨hnan, hinfinity, hnegative⟩ := h
  unfold write
  split
  · exact Ne.symm hnan
  · exact Ne.symm hinfinity
  · exact Ne.symm hnegative
  · rw [ne_eq, String.ofList_eq_empty_iff, List.append_eq_nil_iff]
    exact fun hnil => unsigned_ne_nil _ _ _ hnil.2

end DebugServer.Decimal.Layout
