import Mathlib.Data.List.DropRight
import DebugServer.Proofs.Text.Hexadecimal
import DebugServer.Proofs.Value.Children

/-!
# Reading literals back

The literal of a string is read back as that string, and what follows the closing quote is left
alone. So two strings never have the same literal, and no literal begins another one. A literal has
no control characters in it; within it a double quote is always escaped, which shows from the number
of backslashes in front of it.
-/

namespace DebugServer.Value

/-! ### A reader -/

/-- The character that an escape stands for, and the text behind it. The backslash has been read. -/
def readEscape? : List Char → Option (Char × List Char)
  | '"' :: rest => some ('"', rest)
  | '\\' :: rest => some ('\\', rest)
  | 'n' :: rest => some ('\n', rest)
  | 'r' :: rest => some ('\r', rest)
  | 't' :: rest => some ('\t', rest)
  | 'a' :: rest => some ('\x07', rest)
  | 'b' :: rest => some ('\x08', rest)
  | 'f' :: rest => some ('\x0c', rest)
  | 'v' :: rest => some ('\x0b', rest)
  | 'x' :: rest => Text.codePoint? 2 rest
  | 'u' :: rest => Text.codePoint? 4 rest
  | _ => none

variable {c d : Char} {s rest : List Char}

theorem length_lt_of_readEscape? (h : readEscape? s = some (c, rest)) :
    rest.length < s.length := by
  have hcode {n : Nat} {t : List Char} (h : Text.codePoint? n t = some (c, rest)) :
      rest.length < t.length + 1 := by
    rw [Text.eq_drop_of_codePoint? h, List.length_drop]
    omega
  unfold readEscape? at h
  split at h
  -- The two escapes with digits, then what is no escape, then those of one character.
  case h_10 | h_11 => exact hcode h
  case h_12 => cases h
  all_goals
    cases h
    exact Nat.lt_succ_self _

/-- The string whose literal has been opened, and the text behind its closing quote. -/
def readBody? : List Char → Option (List Char × List Char)
  | [] => none
  | c :: rest =>
    if c = '"' then some ([], rest)
    else if c = '\\' then
      match _h : readEscape? rest with
      | some (d, more) => (readBody? more).map fun (s, after) => (d :: s, after)
      | none => none
    else (readBody? rest).map fun (s, after) => (c :: s, after)
termination_by text => text.length
decreasing_by
  · exact Nat.lt_succ_of_lt (length_lt_of_readEscape? _h)
  · exact Nat.lt_succ_self _

/-- The string that a text begins with the literal of, and the text behind the literal. -/
def readLiteral? (text : String) : Option (String × String) :=
  match text.toList with
  | '"' :: rest =>
    (readBody? rest).map fun (s, after) => (String.ofList s, String.ofList after)
  | _ => none

theorem readBody?_quote (rest : List Char) : readBody? ('"' :: rest) = some ([], rest) := by
  rw [readBody?]
  rfl

theorem readBody?_plain (hquote : c ≠ '"') (hbackslash : c ≠ '\\') (rest : List Char) :
    readBody? (c :: rest) = (readBody? rest).map fun (s, after) => (c :: s, after) := by
  rw [readBody?, if_neg hquote, if_neg hbackslash]

theorem readBody?_escape (h : readEscape? s = some (d, rest)) :
    readBody? ('\\' :: s) = (readBody? rest).map fun (s, after) => (d :: s, after) := by
  have hquote : '\\' ≠ '"' := by decide
  rw [readBody?, if_neg hquote, if_pos rfl]
  split
  · rename_i e more hread
    rw [h] at hread
    cases hread
    rfl
  · rename_i hread
    rw [h] at hread
    cases hread

/-! ### What a literal shows for a character -/

theorem isControl_iff :
    isControl c = true ↔ c.toNat < 0x20 ∨ 0x7F ≤ c.toNat ∧ c.toNat ≤ 0x9F := by
  simp only [isControl, Bool.or_eq_true, Bool.and_eq_true, decide_eq_true_eq,
    UInt32.lt_iff_toNat_lt, UInt32.le_iff_toNat_le]
  rfl

/-- How a literal shows a character: as itself, or as an escape that is read as the character. -/
inductive Shows (c : Char) : List Char → Prop where
  | plain (hshown : isControl c = false) (hquote : c ≠ '"') (hbackslash : c ≠ '\\') : Shows c [c]
  | escape {mark : Char} {digits : List Char} (hshown : isControl mark = false)
    (hdigits : ∀ d ∈ digits, Text.isHexDigit d = true)
    (hread : ∀ rest, readEscape? (mark :: (digits ++ rest)) = some (c, rest)) :
    Shows c ('\\' :: mark :: digits)

theorem literalChar_shows (c : Char) : Shows c (literalChar c) := by
  unfold literalChar
  -- The nine characters with an escape of their own.
  iterate 9
    refine iteInduction (fun hc => ?_) fun _ => ?_
    · subst hc
      exact .escape (by decide) nofun fun _ => rfl
  rename_i hquote hbackslash _ _ _ _ _ _ _
  refine iteInduction (fun hcontrol => ?_) fun hshown => ?_
  · have hhex {width : Nat} : ∀ d ∈ Text.hexPadded width c.toNat, Text.isHexDigit d = true :=
      fun _ hd => Text.isHexDigit_of_mem_hexPadded hd
    refine iteInduction (fun hlow => ?_) fun _ => ?_
    · have hfits : c.toNat < 16 ^ 2 := Nat.lt_trans (UInt32.lt_iff_toNat_lt.mp hlow) (by decide)
      exact .escape (by decide) hhex (Text.codePoint?_hexPadded (by decide) hfits)
    · have hfits : c.toNat < 16 ^ 4 := by
        have hrange := isControl_iff.mp hcontrol
        omega
      exact .escape (by decide) hhex (Text.codePoint?_hexPadded (by decide) hfits)
  · exact .plain (Bool.eq_false_iff.mpr hshown) hquote hbackslash

theorem readBody?_literalChar (c : Char) (rest : List Char) :
    readBody? (literalChar c ++ rest) =
      (readBody? rest).map fun (s, after) => (c :: s, after) := by
  have hc := literalChar_shows c
  generalize literalChar c = shown at hc
  cases hc with
  | plain _ hquote hbackslash => exact readBody?_plain hquote hbackslash rest
  | escape _ _ hread => exact readBody?_escape (hread rest)

theorem readBody?_flatMap (s rest : List Char) :
    readBody? (s.flatMap literalChar ++ '"' :: rest) = some (s, rest) := by
  induction s with
  | nil => exact readBody?_quote rest
  | cons c s ih =>
    rw [List.flatMap_cons, List.append_assoc, readBody?_literalChar, ih]
    rfl

theorem toList_literal (s : String) :
    (literal s).toList = '"' :: s.toList.flatMap literalChar ++ ['"'] := by
  rw [literal, String.toList_ofList]

theorem readLiteral?_literal (s rest : String) :
    readLiteral? (literal s ++ rest) = some (s, rest) := by
  have htext : (literal s ++ rest).toList =
      '"' :: (s.toList.flatMap literalChar ++ '"' :: rest.toList) := by
    simp [toList_literal]
  rw [readLiteral?, htext]
  simp [readBody?_flatMap]

theorem eq_of_literal_eq_append {s t more : String} (h : literal t = literal s ++ more) :
    t = s := by
  have ht := readLiteral?_literal t ""
  rw [String.append_empty, h, readLiteral?_literal] at ht
  cases ht
  rfl

/-! ### What stands between the quotes -/

/-- A text without controls in which a backslash belongs to the character behind it, and a double
quote to a backslash. -/
inductive IsBody : List Char → Prop where
  | nil : IsBody []
  | plain {c : Char} {s : List Char} (hshown : isControl c = false) (hquote : c ≠ '"')
    (hbackslash : c ≠ '\\') (hs : IsBody s) : IsBody (c :: s)
  | escape {c : Char} {s : List Char} (hshown : isControl c = false) (hs : IsBody s) :
    IsBody ('\\' :: c :: s)

theorem IsBody.digits {digits : List Char} (hs : IsBody s)
    (hdigits : ∀ d ∈ digits, Text.isHexDigit d = true) : IsBody (digits ++ s) := by
  induction digits with
  | nil => exact hs
  | cons d digits ih =>
    have hd : Text.isHexDigit d = true := hdigits d List.mem_cons_self
    have hrest : IsBody (digits ++ s) := ih fun e he => hdigits e (List.mem_cons_of_mem d he)
    have hshown : isControl d = false := by
      have hrange := Text.toNat_of_isHexDigit hd
      have hzero : '0'.toNat = 0x30 := rfl
      have hf : 'f'.toNat = 0x66 := rfl
      rw [← Bool.not_eq_true, isControl_iff]
      omega
    have hquote : d ≠ '"' := Text.ne_of_isHexDigit hd (by decide)
    have hbackslash : d ≠ '\\' := Text.ne_of_isHexDigit hd (by decide)
    exact .plain hshown hquote hbackslash hrest

theorem IsBody.literalChar (hs : IsBody s) (c : Char) : IsBody (literalChar c ++ s) := by
  have hc := literalChar_shows c
  generalize Value.literalChar c = shown at hc
  cases hc with
  | plain hshown hquote hbackslash => exact .plain hshown hquote hbackslash hs
  | escape hshown hdigits _ => exact .escape hshown (hs.digits hdigits)

theorem isBody_flatMap (s : List Char) : IsBody (s.flatMap literalChar) := by
  induction s with
  | nil => exact .nil
  | cons c s ih =>
    rw [List.flatMap_cons]
    exact ih.literalChar c

theorem IsBody.isControl_eq_false (h : IsBody s) : ∀ c ∈ s, isControl c = false := by
  induction h with
  | nil => nofun
  | plain hshown _ _ _ ih => exact List.forall_mem_cons.mpr ⟨hshown, ih⟩
  | escape hshown _ ih =>
    exact List.forall_mem_cons.mpr ⟨by decide, List.forall_mem_cons.mpr ⟨hshown, ih⟩⟩

/-- How many backslashes a text ends with if it is written behind `n` backslashes. -/
def backslashRun (n : Nat) (s : List Char) : Nat :=
  s.foldl (fun n c => if c = '\\' then n + 1 else 0) n

/-- The backslashes at the end of a text, counted from its beginning on. -/
theorem length_rtakeWhile_backslash (s : List Char) :
    (s.rtakeWhile (· = '\\')).length = backslashRun 0 s := by
  induction s using List.reverseRecOn with
  | nil => rfl
  | append_singleton s c ih =>
    rw [List.rtakeWhile_concat, backslashRun, List.foldl_append]
    -- The last character continues the run before it or ends it.
    change _ = if c = '\\' then backslashRun 0 s + 1 else 0
    by_cases hc : c = '\\'
    · simp [hc, ih]
    · simp [hc]

/-- The backslashes that escape something come in pairs, so a double quote is behind an odd number,
also if an even number is in front of the text. -/
theorem IsBody.odd_backslashRun (h : IsBody s) {before after : List Char}
    (hs : s = before ++ '"' :: after) {n : Nat} (hn : n % 2 = 0) :
    backslashRun n before % 2 = 1 := by
  induction h generalizing before n with
  | nil => simp at hs
  | plain _ hquote hbackslash _ ih =>
    cases before with
    | nil =>
      cases hs
      exact absurd rfl hquote
    | cons d before =>
      cases hs
      rw [backslashRun, List.foldl_cons, if_neg hbackslash]
      exact ih rfl rfl
  | @escape c s _ _ ih =>
    rcases before with _ | ⟨d, _ | ⟨e, before⟩⟩
    · cases hs
    · cases hs
      change (n + 1) % 2 = 1
      omega
    · cases hs
      rw [backslashRun, List.foldl_cons, List.foldl_cons, if_pos rfl]
      apply ih rfl
      by_cases hc : c = '\\'
      · rw [if_pos hc]
        omega
      · rw [if_neg hc]

/-! ### Literals in a line -/

variable {m : Memory} {v w : Value} {k budget : Nat}

theorem Nested.textWithin_eq_append (h : Nested m k v w) (depth : Nat) :
    ∃ before after, textWithin m (depth + k) v = before ++ textWithin m depth w ++ after := by
  induction h with
  | self v => exact ⟨"", "", by simp⟩
  | @deeper k v u w hu _ ih =>
    obtain ⟨before, after, htext⟩ := ih
    obtain ⟨front, back, hchild, -⟩ := textFrom_eq_append hu (textWithin m (depth + k))
    refine ⟨front ++ before, after ++ back, ?_⟩
    rw [← Nat.add_assoc, textWithin_eq_textFrom, hchild, htext]
    simp only [String.append_assoc]

theorem children_of_isNil (h : v.isNil = true) : children m v = [] := by
  obtain ⟨typeName, kind⟩ := v
  cases kind with
  | nilPointer | nilInterface | nilSlice | nilMap | chan | func => rfl
  | _ => cases h

theorem render_eq_append (hnil : v.isNil = false) (hfits : (fullText m v).length ≤ budget) :
    ∃ after, render m v budget = fullText m v ++ after := by
  have hall : (fullText m v).toList.take budget = (fullText m v).toList :=
    List.take_of_length_le (by rwa [String.length_toList])
  rw [render, hnil, if_neg Bool.false_ne_true, finish_print_eq, hall, String.ofList_toList]
  exact ⟨_, rfl⟩

theorem Nested.render_eq_append {typeName s : String}
    (h : Nested m k v (.mk typeName (.string s))) (hk : k ≤ depthLimit)
    (hfits : (fullText m v).length ≤ budget) :
    ∃ before after, render m v budget = before ++ (literal s ++ after) := by
  have hnil : v.isNil = false := by
    cases h with
    | self => rfl
    | deeper hu =>
      apply Bool.eq_false_iff.mpr
      intro hnil
      rw [children_of_isNil hnil] at hu
      cases hu
  obtain ⟨before, after, htext⟩ := h.textWithin_eq_append (depthLimit - k + 1)
  obtain ⟨more, hrender⟩ := Value.render_eq_append hnil hfits
  -- The `k` levels above the string are used up where it is printed.
  have hdepth : depthLimit - k + 1 + k = depthLimit + 1 := by omega
  rw [hdepth] at htext
  refine ⟨before, after ++ more, ?_⟩
  rw [hrender, fullText, htext, String.append_assoc, String.append_assoc]
  rfl

/-- A string is shown as its literal if the budget is enough for that. -/
theorem render_string {typeName s : String} (hfits : (literal s).length ≤ budget) :
    render m (.mk typeName (.string s)) budget = literal s := by
  apply render_of_fits rfl
  rintro (hlong | ⟨k, w, hk, hw⟩ | ⟨-, hname⟩)
  · exact Nat.not_lt.mpr hfits hlong
  · cases hw with
    | self => exact absurd hk (Nat.not_lt_zero _)
    | deeper hu => cases hu
  · cases hname

/-- A literal stands for one string only and keeps to one line. Within it each double quote is
behind an odd number of backslashes. It is not the beginning of another literal: the string and the
end of the literal are read back whatever follows. With enough budget a string is shown as its
literal, and the line of a value holds the literals of the strings in it. -/
theorem literal_unambiguous (s : String) :
    (∀ t, literal s = literal t → s = t) ∧
    (∃ body, (literal s).toList = '"' :: body ++ ['"'] ∧
      (∀ c ∈ (literal s).toList, isControl c = false) ∧
      ∀ before after, body = before ++ '"' :: after →
        (before.rtakeWhile (· = '\\')).length % 2 = 1) ∧
    (∀ t, (literal s).toList <+: (literal t).toList → literal s = literal t) ∧
    (∀ rest, readLiteral? (literal s ++ rest) = some (s, rest)) ∧
    (∀ m typeName budget, (literal s).length ≤ budget →
      render m (.mk typeName (.string s)) budget = literal s) ∧
    ∀ m v typeName k budget, Nested m k v (.mk typeName (.string s)) → k ≤ depthLimit →
      (fullText m v).length ≤ budget →
      ∃ before after, render m v budget = before ++ (literal s ++ after) := by
  refine ⟨?_, ?_, ?_, readLiteral?_literal s, ?_, ?_⟩
  · intro t h
    have htext : literal s = literal t ++ "" := by rw [h, String.append_empty]
    exact eq_of_literal_eq_append htext
  · have hbody : IsBody (s.toList.flatMap literalChar) := isBody_flatMap s.toList
    refine ⟨_, toList_literal s, ?_, ?_⟩
    · rw [toList_literal, List.forall_mem_append, List.forall_mem_cons]
      exact ⟨⟨by decide, hbody.isControl_eq_false⟩, List.forall_mem_singleton.mpr (by decide)⟩
    · intro before after hsplit
      rw [length_rtakeWhile_backslash]
      exact hbody.odd_backslashRun hsplit rfl
  · rintro t ⟨more, hmore⟩
    have htext : literal t = literal s ++ String.ofList more := by
      rw [← String.toList_inj, ← hmore, String.toList_append, String.toList_ofList]
    rw [eq_of_literal_eq_append htext]
  · intro m typeName budget hfits
    exact render_string hfits
  · intro m v typeName k budget h hk hfits
    exact h.render_eq_append hk hfits

/-- A structure with a string of a double quote, a backslash, a line feed and two other controls. -/
theorem literal_unambiguous_controls :
    let s := "\"\\\n\x7f\u0085"
    let m : Memory := .empty
    let v : Value := .mk "main.T" (.struct [("name", .mk "string" (.string s))])
    (literal s = "\"\\\"\\\\\\n\\x7f\\u0085\"" ∧
      (literal s).length ≤ 18 ∧ Nested m 1 v (.mk "string" (.string s)) ∧ 1 ≤ depthLimit ∧
      (fullText m v).length ≤ 40) ∧
    render m (.mk "string" (.string s)) 18 = literal s ∧
    ∃ before after, render m v 40 = before ++ (literal s ++ after) ∧
      readLiteral? (literal s ++ after) = some (s, after) := by
  intro s m v
  have hlength : (literal s).length ≤ 18 := by decide +kernel
  have hnested : Nested m 1 v (.mk "string" (.string s)) :=
    .deeper (List.mem_singleton.mpr rfl) (.self _)
  have hdepth : 1 ≤ depthLimit := by decide
  have hfits : (fullText m v).length ≤ 40 := by decide +kernel
  obtain ⟨-, -, -, hread, hstring, hline⟩ := literal_unambiguous s
  obtain ⟨before, after, hrender⟩ := hline m v "string" 1 40 hnested hdepth hfits
  exact ⟨⟨by decide +kernel, hlength, hnested, hdepth, hfits⟩, hstring m "string" 18 hlength,
    before, after, hrender, hread after⟩

end DebugServer.Value
